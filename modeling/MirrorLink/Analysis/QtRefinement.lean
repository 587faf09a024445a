import MirrorLink.Analysis.GuiRuns

/-!
# From lists to Qt

Once the threads are connected, the program over Qt does what it does with a list for each queue and
a list for the model (`run_represents`).  What is proved of the program over lists holds of it with
any Qt that does what is documented.
-/

set_option autoImplicit false

namespace MirrorLink.Analysis

open MirrorLink.Library MirrorLink.Program

variable {C W M : Type} {qt : QtThreads.Qt C W M} {parse : Option (List UInt8) → Option Element}

/-- The threads are connected, and their state is this one with lists. -/
structure Represents (qt : QtThreads.Qt C W M) (q : QtThreads.Gui C W M) (g : Gui) : Prop where
  running : q.manager.running = true
  connected : q.manager.connected = true
  toClient : qt.clientCalls.Holds q.manager.toClient g.manager.toClient
  toWindow : qt.windowCalls.Holds q.manager.toWindow
    (g.manager.toWindow.map QtThreads.WindowCall.onAddApp)
  rows : qt.appListModel.Rows q.window.appListModel g.window.items
  client : q.client = g.client

section Steps

variable {q : QtThreads.Gui C W M} {g : Gui}

/-- The same signal is sent to both. -/
theorem Represents.emit (h : Represents qt q g) (hqt : qt.Documented) (signal : ClientSignal) :
    Represents qt { q with manager := QtThreads.emit qt q.manager signal }
      { g with manager := g.manager.emit signal } := by
  rw [QtThreads.emit, if_pos h.connected]
  exact { h with toClient := h.toClient.post hqt.clientCalls signal }

/-- Both have the same item in a cell. -/
theorem Represents.item (h : Represents qt q g) (row column : ℕ) :
    qt.appListModel.item q.window.appListModel row column = g.window.item row column := by
  rw [h.rows.item, MainWindow.item]

/-- The window takes the same call in both. -/
theorem Represents.takeCall (h : Represents qt q g) (hqt : qt.Documented) :
    Represents qt (QtThreads.takeCall qt q) (takeAddApp g) := by
  unfold QtThreads.takeCall takeAddApp
  have hwaits := h.toWindow
  cases hqueue : g.manager.toWindow with
  | nil =>
    rw [hqueue] at hwaits
    rw [Library.Queue.Holds.take_nil hwaits]
    exact h
  | cons app rest =>
    rw [hqueue, List.map_cons] at hwaits
    obtain ⟨left, htake, hleft⟩ := hwaits.take_cons
    rw [htake]
    exact {
      h with
      toWindow := hleft
      rows := h.rows.appendRow hqt.appListModel (appItem app) }

/-- The client takes the same signal in both. -/
theorem Represents.takeSignal (h : Represents qt q g) (hqt : qt.Documented)
    (create list launch : Reply) :
    EndsAs (Represents qt) (QtThreads.takeSignal qt parse create list launch q)
      (Program.takeSignal parse create list launch g) := by
  unfold QtThreads.takeSignal Program.takeSignal
  rw [if_pos h.running]
  have hwaits := h.toClient
  cases hqueue : g.manager.toClient with
  | nil =>
    rw [hqueue] at hwaits
    rw [hwaits.take_nil]
    exact h
  | cons signal rest =>
    rw [hqueue] at hwaits
    obtain ⟨left, htake, hleft⟩ := hwaits.take_cons
    rw [htake]
    cases signal with
    | start ip port path =>
      rw [h.client]
      refine .bind_same fun r _ => ?_
      obtain ⟨c, emitted⟩ := r
      have hposted := h.toWindow.postAll hqt.windowCalls
        ((emitted.map Program.emitAddApp).map QtThreads.WindowCall.onAddApp)
      rw [← List.map_append] at hposted
      show Represents qt { q with manager := emitted.foldl _ _, client := c } _
      rw [foldl_emitAddApp { q.manager with toClient := left } h.connected]
      exact ⟨h.running, h.connected, hleft, hposted, h.rows, rfl⟩
    | stop =>
      exact ⟨h.running, h.connected, hleft, h.toWindow, h.rows, congrArg onStop h.client⟩
    | launch appid =>
      rw [h.client]
      refine .bind_same fun r _ => ?_
      exact ⟨h.running, h.connected, hleft, h.toWindow, h.rows, rfl⟩

/-- **One event.** -/
theorem Represents.step (h : Represents qt q g) (hqt : qt.Documented) (event : GuiEvent) :
    EndsAs (Represents qt) (QtThreads.step qt parse q (.gui event)) (guiStep parse g event) := by
  cases event with
  | startButton host port path =>
    have hsent := h.emit hqt (.start host port.toUInt32.toUInt16 path)
    exact { hsent with rows := Table.rows_clear hqt.appListModel _ }
  | stopButton => exact h.emit hqt .stop
  | doubleClick row column =>
    show EndsAs _ (QtThreads.onViewDoubleClick qt q.window q.manager row column >>= _)
      (onViewDoubleClick g.window g.manager row column >>= _)
    unfold QtThreads.onViewDoubleClick onViewDoubleClick
    rw [h.item, bind_assoc, bind_assoc]
    exact .bind_same fun item _ => h.emit hqt (.launch item.data.toUInt32)
  | windowTurn => exact h.takeCall hqt
  | clientTurn create list launch => exact h.takeSignal hqt create list launch

end Steps

/-- **A run.**  Over Qt it ends as with lists, in the same state or in the same fault. -/
theorem run_represents {q : QtThreads.Gui C W M} {g : Gui} (h : Represents qt q g)
    (hqt : qt.Documented) (events : List GuiEvent) :
    EndsAs (Represents qt) (QtThreads.run qt parse q (events.map .gui)) (guiRun parse g events) :=
  EndsAs.foldlM _ (fun _ _ event hrepresents => hrepresents.step hqt event) events h

end MirrorLink.Analysis
