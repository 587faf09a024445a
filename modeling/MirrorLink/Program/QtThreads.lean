import MirrorLink.Library.Queue
import MirrorLink.Library.Table
import MirrorLink.Program.MainWindow

/-!
# The window and the client over Qt

The functions of `MainWindow`, here from the construction of the window on, and over what they use
of Qt: the calls that wait for the thread of a receiver, and the model of the list.  Neither is
known here but by its operations; `Qt.Documented` is what Qt documents of them.

`ThreadManager` starts the thread of the client, which has `onThreadStart` called in the thread of
the window when it runs.  Only then are the signals connected: one that is emitted before has no
receiver and is lost.
-/

set_option autoImplicit false

namespace MirrorLink.Program.QtThreads

open MirrorLink.Library

variable {C W M : Type}

/-! ## Qt -/

/-- A call that waits for the thread of the window. -/
inductive WindowCall where
  | onThreadStart
  | onAddApp (app : AddApp)

/-- What is used of Qt. -/
structure Qt (C W M : Type) where
  /-- The slots of the client that its signals call. -/
  clientCalls : Queue C ClientSignal
  windowCalls : Queue W WindowCall
  /-- `QStandardItemModel` -/
  appListModel : Table M AppItem

/-- Calls that are posted to a thread are made in their order, and a model keeps its items. -/
structure Qt.Documented (qt : Qt C W M) : Prop where
  clientCalls : qt.clientCalls.FirstInFirstOut
  windowCalls : qt.windowCalls.FirstInFirstOut
  appListModel : qt.appListModel.KeepsItems

variable (qt : Qt C W M)

/-! ## `ThreadManager` -/

structure ThreadManager (C W : Type) where
  /-- `m_thread` runs. -/
  running : Bool
  /-- `onThreadStart` has made its connections. -/
  connected : Bool
  toClient : C
  toWindow : W

/-- `ThreadManager::ThreadManager` -/
def ThreadManager.init : ThreadManager C W :=
  ⟨false, false, qt.clientCalls.empty, qt.windowCalls.empty⟩

/-- `emit` of a signal to the client, which has no receiver before it is connected. -/
def emit (m : ThreadManager C W) (signal : ClientSignal) : ThreadManager C W :=
  if m.connected then { m with toClient := qt.clientCalls.post m.toClient signal } else m

/-- `emit addApp` in the client. -/
def emitAddApp (m : ThreadManager C W) (app : App) : ThreadManager C W :=
  if m.connected then
    { m with toWindow := qt.windowCalls.post m.toWindow (.onAddApp (Program.emitAddApp app)) }
  else m

/-- `ThreadManager::startMirrorLinkClient` -/
def startMirrorLinkClient (m : ThreadManager C W) (ip : List UInt8) (port : UInt16)
    (path : List UInt8) : ThreadManager C W :=
  emit qt m (.start ip port path)

/-- `ThreadManager::stopMirrorLinkClient` -/
def stopMirrorLinkClient (m : ThreadManager C W) : ThreadManager C W := emit qt m .stop

/-- `ThreadManager::launchApp` -/
def launchApp (m : ThreadManager C W) (appid : UInt32) : ThreadManager C W :=
  emit qt m (.launch appid)

/-- The thread begins to run, and `QThread::started` calls `onThreadStart` in the thread of the
window.  It is started once. -/
def threadStarts (m : ThreadManager C W) : ThreadManager C W :=
  if m.running then m
  else { m with running := true, toWindow := qt.windowCalls.post m.toWindow .onThreadStart }

/-- `ThreadManager::onThreadStart` -/
def onThreadStart (m : ThreadManager C W) : ThreadManager C W := { m with connected := true }

/-! ## `MainWindow` -/

structure MainWindow (M : Type) where
  appListModel : M

/-- `MainWindow::MainWindow`, with the item that is there for a test. -/
def MainWindow.init : MainWindow M :=
  ⟨qt.appListModel.appendRow qt.appListModel.new testItem⟩

/-- `MainWindow::on_addApp` -/
def onAddApp (w : MainWindow M) (app : AddApp) : MainWindow M :=
  ⟨qt.appListModel.appendRow w.appListModel (appItem app)⟩

/-- `MainWindow::on_viewDoubleClick` -/
def onViewDoubleClick (w : MainWindow M) (m : ThreadManager C W) (row column : ℕ) :
    Except Fault (ThreadManager C W) := do
  let item ← deref (qt.appListModel.item w.appListModel row column)
  pure (launchApp qt m item.data.toUInt32)

/-- `MainWindow::on_startButton_clicked`, with what `QUrl` finds in the text. -/
def onStartButtonClicked (w : MainWindow M) (m : ThreadManager C W) (host : List UInt8)
    (port : Int32) (path : List UInt8) : MainWindow M × ThreadManager C W :=
  (⟨qt.appListModel.clear w.appListModel⟩,
    startMirrorLinkClient qt m host port.toUInt32.toUInt16 path)

/-- `MainWindow::on_stopButton_clicked` -/
def onStopButtonClicked (m : ThreadManager C W) : ThreadManager C W := stopMirrorLinkClient qt m

/-! ## Both threads -/

structure Gui (C W M : Type) where
  window : MainWindow M
  manager : ThreadManager C W
  client : MirrorLinkClient

/-- The window is constructed, and its thread has not begun to run. -/
def Gui.init : Gui C W M := ⟨MainWindow.init qt, ThreadManager.init qt, MirrorLinkClient.init⟩

/-- An event before or after the threads are connected. -/
inductive Event where
  | threadStarts
  | gui (event : GuiEvent)

/-- The thread of the client, once it runs, takes the next signal.  What the slot emits is handed
over in its order. -/
def takeSignal (parse : Option (List UInt8) → Option Element) (create list launch : Reply)
    (g : Gui C W M) : Except Fault (Gui C W M) :=
  if g.manager.running then
    match qt.clientCalls.take g.manager.toClient with
    | none => pure g
    | some (.start ip port path, rest) => do
      let (c, emitted) ← onStart parse g.client ip port path create list
      pure { g with
        manager := emitted.foldl (emitAddApp qt) { g.manager with toClient := rest }
        client := c }
    | some (.stop, rest) =>
      pure { g with manager := { g.manager with toClient := rest }, client := onStop g.client }
    | some (.launch appid, rest) => do
      let (c, _) ← onLaunch parse g.client appid launch
      pure { g with manager := { g.manager with toClient := rest }, client := c }
  else pure g

/-- The thread of the window takes the next call. -/
def takeCall (g : Gui C W M) : Gui C W M :=
  match qt.windowCalls.take g.manager.toWindow with
  | none => g
  | some (.onThreadStart, rest) =>
    { g with manager := onThreadStart { g.manager with toWindow := rest } }
  | some (.onAddApp app, rest) =>
    { g with window := onAddApp qt g.window app, manager := { g.manager with toWindow := rest } }

/-- One event. -/
def step (parse : Option (List UInt8) → Option Element) (g : Gui C W M) :
    Event → Except Fault (Gui C W M)
  | .threadStarts => pure { g with manager := threadStarts qt g.manager }
  | .gui (.startButton host port path) =>
    let (window, manager) := onStartButtonClicked qt g.window g.manager host port path
    pure { g with window := window, manager := manager }
  | .gui .stopButton => pure { g with manager := onStopButtonClicked qt g.manager }
  | .gui (.doubleClick row column) => do
    let manager ← onViewDoubleClick qt g.window g.manager row column
    pure { g with manager := manager }
  | .gui .windowTurn => pure (takeCall qt g)
  | .gui (.clientTurn create list launch) => takeSignal qt parse create list launch g

/-- One event after the other. -/
def run (parse : Option (List UInt8) → Option Element) (g : Gui C W M) (events : List Event) :
    Except Fault (Gui C W M) :=
  events.foldlM (step qt parse) g

/-! ## Lists -/

/-- Qt with lists for its queues and its model. -/
def Qt.ofLists : Qt (List ClientSignal) (List WindowCall) (List AppItem) :=
  ⟨.ofList ClientSignal, .ofList WindowCall, .ofList AppItem⟩

/-- A list for each queue and for the model does what is documented. -/
theorem Qt.documented_ofLists : Qt.ofLists.Documented :=
  ⟨Queue.firstInFirstOut_ofList, Queue.firstInFirstOut_ofList, Table.keepsItems_ofList⟩

end MirrorLink.Program.QtThreads
