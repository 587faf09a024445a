import MirrorLink.Program.MirrorLinkClient

/-!
# The window: `MirrorLinkClient/mainwindow.cpp`, `MirrorLinkClient/threadmanager.cpp`

The window and the client live in two threads.  `ThreadManager` hands signals from one to the
other, and what is handed over waits until the thread of the receiver takes it.

This is the program once `onThreadStart` has made its connections, with a list for each queue of
Qt and for the model of the list.  `QtThreads` has it from its start on, over any Qt whose queues
and model do what Qt documents; there this is a named hypothesis, `Qt.Documented`.
-/

set_option autoImplicit false

namespace MirrorLink.Program

open MirrorLink.Library

/-! ## Signals -/

/-- `start`, `stop` and `launch`, to the client. -/
inductive ClientSignal where
  | start (ip : List UInt8) (port : UInt16) (path : List UInt8)
  | stop
  | launch (appid : UInt32)
  deriving DecidableEq

/-- `addApp`, to the window. -/
structure AddApp where
  appID : Int32
  name : Option (List UInt8)
  description : Option (List UInt8)

/-- `emit addApp(app->appID, app->name, app->description)`: `%x` has stored the bits of an
`int`. -/
def emitAddApp (app : App) : AddApp := ⟨app.appID.toInt32, app.name, app.description⟩

/-- `ThreadManager`: the signals that have not been taken yet. -/
structure ThreadManager where
  toClient : List ClientSignal
  toWindow : List AddApp

/-- `emit` of a signal to the client. -/
def ThreadManager.emit (m : ThreadManager) (signal : ClientSignal) : ThreadManager :=
  { m with toClient := m.toClient ++ [signal] }

/-- `ThreadManager::startMirrorLinkClient` -/
def startMirrorLinkClient (m : ThreadManager) (ip : List UInt8) (port : UInt16)
    (path : List UInt8) : ThreadManager :=
  m.emit (.start ip port path)

/-- `ThreadManager::stopMirrorLinkClient` -/
def stopMirrorLinkClient (m : ThreadManager) : ThreadManager := m.emit .stop

/-- `ThreadManager::launchApp` -/
def launchApp (m : ThreadManager) (appid : UInt32) : ThreadManager := m.emit (.launch appid)

/-! ## The list -/

/-- `QStandardItem`: its text, its tool tip and its data. -/
structure AppItem where
  text : Option (List UInt8)
  toolTip : Option (List UInt8)
  data : Int32

/-- `appListModel`, which has one column. -/
structure MainWindow where
  items : List AppItem

/-- The item that `MainWindow::MainWindow` adds for a test. -/
def testItem : AppItem := ⟨some (ascii "TEST"), none, 3⟩

/-- `appListModel->item(row, column)` -/
def MainWindow.item (w : MainWindow) (row column : ℕ) : Option AppItem :=
  if column = 0 then w.items[row]? else none

/-- The item of an application. -/
def appItem (app : AddApp) : AppItem := ⟨app.name, app.description, app.appID⟩

/-- `MainWindow::on_addApp`, to which `ThreadManager::onAddApp` hands its signal on. -/
def onAddApp (w : MainWindow) (app : AddApp) : MainWindow := ⟨w.items ++ [appItem app]⟩

/-- `MainWindow::on_viewDoubleClick`: the `int` of the item is made a `quint32`. -/
def onViewDoubleClick (w : MainWindow) (m : ThreadManager) (row column : ℕ) :
    Except Fault ThreadManager := do
  let item ← deref (w.item row column)
  pure (launchApp m item.data.toUInt32)

/-- `MainWindow::on_startButton_clicked`, with what `QUrl` finds in the text. -/
def onStartButtonClicked (m : ThreadManager) (host : List UInt8) (port : Int32)
    (path : List UInt8) : MainWindow × ThreadManager :=
  (⟨[]⟩, startMirrorLinkClient m host port.toUInt32.toUInt16 path)

/-- `MainWindow::on_stopButton_clicked` -/
def onStopButtonClicked (m : ThreadManager) : ThreadManager := stopMirrorLinkClient m

/-! ## Both threads -/

/-- The program when its threads are connected: its window, its client and the signals between
them. -/
structure Gui where
  window : MainWindow
  manager : ThreadManager
  client : MirrorLinkClient

/-- What the user does, or one turn of a thread.  The client has with it how its exchanges
end. -/
inductive GuiEvent where
  | startButton (host : List UInt8) (port : Int32) (path : List UInt8)
  | stopButton
  | doubleClick (row column : ℕ)
  | windowTurn
  | clientTurn (create list launch : Reply)

/-- The client takes the next signal.  It emits an `addApp` for each application. -/
def takeSignal (parse : Option (List UInt8) → Option Element) (create list launch : Reply)
    (g : Gui) : Except Fault Gui :=
  match g.manager.toClient with
  | [] => pure g
  | .start ip port path :: rest => do
    let (c, emitted) ← onStart parse g.client ip port path create list
    pure ⟨g.window, ⟨rest, g.manager.toWindow ++ emitted.map emitAddApp⟩, c⟩
  | .stop :: rest => pure ⟨g.window, { g.manager with toClient := rest }, onStop g.client⟩
  | .launch appid :: rest => do
    let (c, _) ← onLaunch parse g.client appid launch
    pure ⟨g.window, { g.manager with toClient := rest }, c⟩

/-- The window takes the next `addApp`. -/
def takeAddApp (g : Gui) : Gui :=
  match g.manager.toWindow with
  | [] => g
  | app :: rest => { g with
      window := onAddApp g.window app
      manager := { g.manager with toWindow := rest } }

/-- One event. -/
def guiStep (parse : Option (List UInt8) → Option Element) (g : Gui) :
    GuiEvent → Except Fault Gui
  | .startButton host port path =>
    let (window, manager) := onStartButtonClicked g.manager host port path
    pure { g with window := window, manager := manager }
  | .stopButton => pure { g with manager := onStopButtonClicked g.manager }
  | .doubleClick row column => do
    let manager ← onViewDoubleClick g.window g.manager row column
    pure { g with manager := manager }
  | .windowTurn => pure (takeAddApp g)
  | .clientTurn create list launch => takeSignal parse create list launch g

/-- One event after the other. -/
def guiRun (parse : Option (List UInt8) → Option Element) (g : Gui) (events : List GuiEvent) :
    Except Fault Gui :=
  events.foldlM (guiStep parse) g

end MirrorLink.Program
