import MirrorLink.Program.QtThreads

/-!
# What has gone between the window and the client

A `GuiHistory` records, over a run of both threads, the signals that the user has caused before and
after the threads were connected, the slots of the client that were called for them, what the client
has shown, and the applications that the window was told of.  The client by itself is
`performSlots`: its slots, one after the other.
-/

set_option autoImplicit false

namespace MirrorLink.Program

open MirrorLink.Library

/-! ## The client by itself -/

/-- One slot after the other: the client after them, and what is shown. -/
def performSlots (parse : Option (List UInt8) → Option Element) (c : MirrorLinkClient) :
    List Slot → Except Fault (MirrorLinkClient × List Shown)
  | [] => pure (c, [])
  | slot :: slots => do
    let (c, shown) ← slotStep parse c slot
    let (c, later) ← performSlots parse c slots
    pure (c, shown ++ later)

/-- The signal that a slot is called for. -/
def Slot.signal : Slot → ClientSignal
  | onStart ip port path _ _ => .start ip port path
  | onStop => .stop
  | onLaunch appid _ => .launch appid

/-- The slot that is called for a signal, with how its exchanges end. -/
def ClientSignal.slot (create list launch : Reply) : ClientSignal → Slot
  | start ip port path => .onStart ip port path create list
  | stop => .onStop
  | .launch appid => .onLaunch appid launch

/-- The application that is shown. -/
def Shown.app : Shown → Option App
  | addApp app => some app
  | vncSessionStart _ _ => none

/-! ## Histories -/

structure GuiHistory where
  /-- The signals that were sent before `onThreadStart` was called. -/
  lost : List ClientSignal
  /-- Those that were sent to the client after it. -/
  sent : List ClientSignal
  /-- `onThreadStart` was called. -/
  connected : Bool
  /-- The slots that were called. -/
  slots : List Slot
  /-- What the client has shown. -/
  shown : List Shown
  /-- The applications that the window was told of. -/
  told : List AddApp
  /-- Those of them that it was told of since the list was started. -/
  listed : List AddApp
  /-- The list was started. -/
  started : Bool

namespace GuiHistory

def init : GuiHistory := ⟨[], [], false, [], [], [], [], false⟩

/-- The rows of the list: before the first start there is the one for a test. -/
def rows (h : GuiHistory) : List AppItem :=
  (if h.started then [] else [testItem]) ++ h.listed.map appItem

/-- A signal is sent. -/
def send (h : GuiHistory) (signal : ClientSignal) : GuiHistory :=
  if h.connected then { h with sent := h.sent ++ [signal] }
  else { h with lost := h.lost ++ [signal] }

/-- A slot is called. -/
def call (h : GuiHistory) (parse : Option (List UInt8) → Option Element) (c : MirrorLinkClient)
    (slot : Slot) : GuiHistory :=
  { h with
    slots := h.slots ++ [slot]
    shown := h.shown ++ match slotStep parse c slot with
      | .ok (_, shown) => shown
      | .error _ => [] }

open QtThreads

variable {C W M : Type}

/-- What an event adds to the history. -/
def note (h : GuiHistory) (qt : Qt C W M) (parse : Option (List UInt8) → Option Element)
    (g : QtThreads.Gui C W M) : Event → GuiHistory
  | .threadStarts => h
  | .gui (.startButton host port path) =>
    { h.send (.start host port.toUInt32.toUInt16 path) with listed := [], started := true }
  | .gui .stopButton => h.send .stop
  | .gui (.doubleClick row column) =>
    match qt.appListModel.item g.window.appListModel row column with
    | none => h
    | some item => h.send (.launch item.data.toUInt32)
  | .gui .windowTurn =>
    match qt.windowCalls.take g.manager.toWindow with
    | none => h
    | some (.onThreadStart, _) => { h with connected := true }
    | some (.onAddApp app, _) => { h with told := h.told ++ [app], listed := h.listed ++ [app] }
  | .gui (.clientTurn create list launch) =>
    if g.manager.running then
      match qt.clientCalls.take g.manager.toClient with
      | none => h
      | some (signal, _) => h.call parse g.client (signal.slot create list launch)
    else h

end GuiHistory

/-- The history of a run, up to its end or to the event that goes wrong. -/
def guiHistory {C W M : Type} (qt : QtThreads.Qt C W M)
    (parse : Option (List UInt8) → Option Element) (g : QtThreads.Gui C W M) (h : GuiHistory) :
    List QtThreads.Event → GuiHistory
  | [] => h
  | event :: events =>
    match QtThreads.step qt parse g event with
    | .ok g' => guiHistory qt parse g' (h.note qt parse g event) events
    | .error _ => h.note qt parse g event

end MirrorLink.Program
