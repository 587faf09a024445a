import MirrorLink.Analysis.Listing
import MirrorLink.Interface.ApplicationIds
import MirrorLink.Interface.GuiHistory

/-!
# Two threads, as one

The window and the client work at their own pace, with calls that wait between them, and at first
they are not connected at all.  Still the client does what it would do by itself: its slots are
called once for each signal that is sent after `onThreadStart`, in the order the user has sent them
in, and the window is told of what it shows, once and in order.  The rows of the list are what the
window was told of since the list was started, and what is launched was in the list (`gui_refines`).
A signal that is sent before `onThreadStart` is lost.
-/

set_option autoImplicit false

namespace MirrorLink.Analysis

open MirrorLink.Library MirrorLink.Program QtThreads

variable {C W M : Type} {qt : Qt C W M} {parse : Option (List UInt8) → Option Element}

/-! ## What is kept -/

/-- What waits for the window between the start of the thread and `onThreadStart`. -/
def startCalls (m : QtThreads.ThreadManager C W) : List WindowCall :=
  if m.running ∧ ¬ m.connected then [.onThreadStart] else []

/-- The history accounts for a state of both threads. -/
structure Accounted (qt : Qt C W M) (parse : Option (List UInt8) → Option Element)
    (h : GuiHistory) (g : QtThreads.Gui C W M) : Prop where
  /-- Each signal is taken once, in order, or waits. -/
  signals : ∃ waiting, qt.clientCalls.Holds g.manager.toClient waiting ∧
    h.sent = h.slots.map Slot.signal ++ waiting
  /-- The client is what the slots have made of it. -/
  client : performSlots parse MirrorLinkClient.init h.slots = .ok (g.client, h.shown)
  /-- The window is told of each application once, in order, or it waits. -/
  apps : ∃ waiting, qt.windowCalls.Holds g.manager.toWindow
      (startCalls g.manager ++ waiting.map .onAddApp) ∧
    (h.shown.filterMap Shown.app).map Program.emitAddApp = h.told ++ waiting
  rows : qt.appListModel.Rows g.window.appListModel h.rows
  listed : h.listed <:+ h.told
  connected : g.manager.connected = h.connected
  /-- Nothing is sent to the client before it is connected. -/
  early : h.connected = false → h.sent = []
  running : h.connected = true → g.manager.running = true
  /-- What is launched is the item for a test, or was in the list. -/
  launches : ∀ appid, .launch appid ∈ h.lost ++ h.sent →
    appid = 3 ∨ ∃ app ∈ h.told, app.appID.toUInt32 = appid

/-- One more slot. -/
theorem performSlots_concat {c c' : MirrorLinkClient} {before : List Slot} {shown : List Shown}
    (h : performSlots parse c before = .ok (c', shown)) (slot : Slot) :
    performSlots parse c (before ++ [slot]) =
      (slotStep parse c' slot).map fun r => (r.1, shown ++ r.2) := by
  induction before generalizing c shown with
  | nil =>
    cases h
    show (slotStep parse c' slot >>= fun r => pure (r.1, r.2 ++ [])) = _
    simp only [List.append_nil]
    cases slotStep parse c' slot <;> rfl
  | cons first before ih =>
    obtain ⟨⟨c₁, shown₁⟩, hfirst, h⟩ := bind_eq_ok.mp h
    obtain ⟨⟨c₂, later⟩, hbefore, h⟩ := bind_eq_ok.mp h
    cases h
    rw [List.cons_append, performSlots, hfirst]
    show (performSlots parse c₁ (before ++ [slot]) >>= _) = _
    rw [ih hbefore]
    cases slotStep parse c' slot with
    | error fault => rfl
    | ok r =>
      show (Except.ok (r.1, shown₁ ++ (later ++ r.2)) : Except Fault _) =
        .ok (r.1, shown₁ ++ later ++ r.2)
      rw [List.append_assoc]

/-- A slot is that of its signal. -/
theorem signal_slot (create list launch : Reply) (signal : ClientSignal) :
    (signal.slot create list launch).signal = signal := by
  cases signal <;> rfl

/-- These applications are handed to the window, in their order. -/
def handOver (qt : Qt C W M) (toWindow : W) (apps : List AddApp) : W :=
  (apps.map WindowCall.onAddApp).foldl qt.windowCalls.post toWindow

/-- What the client emits when it is connected waits for the window in its order. -/
theorem foldl_emitAddApp (m : QtThreads.ThreadManager C W) (hconnected : m.connected = true)
    (emitted : List App) : emitted.foldl (QtThreads.emitAddApp qt) m =
      { m with toWindow := handOver qt m.toWindow (emitted.map Program.emitAddApp) } := by
  induction emitted generalizing m with
  | nil => rfl
  | cons app emitted ih =>
    have hstep : QtThreads.emitAddApp qt m app = { m with
        toWindow := qt.windowCalls.post m.toWindow (.onAddApp (Program.emitAddApp app)) } :=
      if_pos hconnected
    rw [List.foldl_cons, hstep]
    exact ih _ hconnected

/-- What the client's turn makes of both threads. -/
theorem takeSignal_cons {g g' : QtThreads.Gui C W M} {signal : ClientSignal} {rest : C}
    {create list launch : Reply} (hrunning : g.manager.running = true)
    (hconnected : g.manager.connected = true)
    (htake : qt.clientCalls.take g.manager.toClient = some (signal, rest))
    (h : QtThreads.takeSignal qt parse create list launch g = .ok g') :
    ∃ shown, slotStep parse g.client (signal.slot create list launch) = .ok (g'.client, shown) ∧
      g'.window = g.window ∧ g'.manager = { g.manager with
        toClient := rest
        toWindow := handOver qt g.manager.toWindow
          ((shown.filterMap Shown.app).map Program.emitAddApp) } := by
  unfold QtThreads.takeSignal at h
  rw [if_pos hrunning, htake] at h
  cases signal with
  | start ip port path =>
    obtain ⟨⟨c, emitted⟩, hstart, h⟩ := bind_eq_ok.mp h
    cases h
    refine ⟨emitted.map .addApp, bind_eq_ok.mpr ⟨(c, emitted), hstart, rfl⟩, rfl, ?_⟩
    have hsome : Shown.app ∘ Shown.addApp = some := rfl
    rw [List.filterMap_map, hsome, List.filterMap_some]
    exact foldl_emitAddApp { g.manager with toClient := rest } hconnected emitted
  | stop =>
    cases h
    exact ⟨[], rfl, rfl, rfl⟩
  | launch appid =>
    obtain ⟨⟨c, started⟩, hlaunch, h⟩ := bind_eq_ok.mp h
    cases h
    refine ⟨_, bind_eq_ok.mpr ⟨(c, started), hlaunch, rfl⟩, rfl, ?_⟩
    cases started <;> rfl

section Steps

variable {h : GuiHistory} {g g' : QtThreads.Gui C W M}

/-- Before the threads are connected, nothing is shown and nothing waits. -/
theorem Accounted.waiting_nil (hacc : Accounted qt parse h g) (hconnected : h.connected = false) :
    qt.windowCalls.Holds g.manager.toWindow (startCalls g.manager) := by
  obtain ⟨signals, -, hsent⟩ := hacc.signals
  rw [hacc.early hconnected] at hsent
  have hslots : h.slots = [] := List.map_eq_nil_iff.mp (List.append_eq_nil_iff.mp hsent.symm).1
  have hclient := hacc.client
  rw [hslots] at hclient
  have hshown : h.shown = [] := (congrArg Prod.snd (Except.ok.inj hclient)).symm
  obtain ⟨waiting, hholds, happs⟩ := hacc.apps
  rw [hshown] at happs
  rw [(List.append_eq_nil_iff.mp happs.symm).2] at hholds
  rwa [List.map_nil, List.append_nil] at hholds

/-- A signal of the user: it is sent to the client, or lost. -/
theorem Accounted.send (hacc : Accounted qt parse h g) (hqt : qt.Documented)
    (signal : ClientSignal) (hlaunch : ∀ appid, signal = .launch appid →
      appid = 3 ∨ ∃ app ∈ h.told, app.appID.toUInt32 = appid) :
    Accounted qt parse (h.send signal)
      { g with manager := QtThreads.emit qt g.manager signal } := by
  obtain ⟨waiting, hholds, hsent⟩ := hacc.signals
  cases hconnected : h.connected with
  | true =>
    have hemit : QtThreads.emit qt g.manager signal =
        { g.manager with toClient := qt.clientCalls.post g.manager.toClient signal } :=
      if_pos (hacc.connected.trans hconnected)
    have hsend : h.send signal = { h with sent := h.sent ++ [signal] } := if_pos hconnected
    rw [hemit, hsend]
    exact {
      signals := by
        refine ⟨waiting ++ [signal], hholds.post hqt.clientCalls signal, ?_⟩
        show h.sent ++ [signal] = _
        rw [hsent, List.append_assoc]
      client := hacc.client
      apps := hacc.apps
      rows := hacc.rows
      listed := hacc.listed
      connected := hacc.connected
      early := fun hnot => absurd (hnot.symm.trans hconnected) (by decide)
      running := hacc.running
      launches := by
        intro appid hmem
        rw [← List.append_assoc, List.mem_append] at hmem
        rcases hmem with hmem | hmem
        · exact hacc.launches appid hmem
        · exact hlaunch appid (List.mem_singleton.mp hmem).symm }
  | false =>
    have hemit : QtThreads.emit qt g.manager signal = g.manager :=
      if_neg (by simp [hacc.connected, hconnected])
    have hsend : h.send signal = { h with lost := h.lost ++ [signal] } :=
      if_neg (by simp [hconnected])
    rw [hemit, hsend]
    exact {
      signals := hacc.signals
      client := hacc.client
      apps := hacc.apps
      rows := hacc.rows
      listed := hacc.listed
      connected := hacc.connected
      early := hacc.early
      running := hacc.running
      launches := by
        intro appid hmem
        have hsent := hacc.early hconnected
        replace hmem : .launch appid ∈ h.lost ++ [signal] ++ h.sent := hmem
        rw [hsent, List.append_nil, List.mem_append] at hmem
        rcases hmem with hmem | hmem
        · exact hacc.launches appid (List.mem_append_left _ hmem)
        · exact hlaunch appid (List.mem_singleton.mp hmem).symm }

/-- A row of the list is the item for a test, or an application. -/
theorem Accounted.row (hacc : Accounted qt parse h g) {row column : ℕ} {item : AppItem}
    (hitem : qt.appListModel.item g.window.appListModel row column = some item) :
    item.data.toUInt32 = 3 ∨ ∃ app ∈ h.told, app.appID.toUInt32 = item.data.toUInt32 := by
  rw [hacc.rows.item] at hitem
  split at hitem
  next =>
    have hmem := List.mem_of_getElem? hitem
    rw [GuiHistory.rows, List.mem_append] at hmem
    rcases hmem with hmem | hmem
    · split at hmem
      · cases hmem
      · left
        rw [List.mem_singleton.mp hmem]
        rfl
    · obtain ⟨app, happ, rfl⟩ := List.mem_map.mp hmem
      exact .inr ⟨app, hacc.listed.subset happ, rfl⟩
  next => cases hitem

/-- A double click sends or loses the launch of its item. -/
theorem Accounted.doubleClick (hacc : Accounted qt parse h g) (hqt : qt.Documented)
    {row column : ℕ} (hstep : QtThreads.step qt parse g (.gui (.doubleClick row column)) = .ok g') :
    Accounted qt parse (h.note qt parse g (.gui (.doubleClick row column))) g' := by
  obtain ⟨manager, hmanager, hstep⟩ := bind_eq_ok.mp hstep
  obtain ⟨item, hitem, hmanager⟩ := bind_eq_ok.mp hmanager
  cases hmanager
  cases hstep
  have hfound := deref_eq_ok.mp hitem
  rw [GuiHistory.note, hfound]
  refine hacc.send hqt _ fun appid happid => ?_
  cases happid
  exact hacc.row hfound

/-- The thread of the client begins to run. -/
theorem Accounted.threadStarts (hacc : Accounted qt parse h g) (hqt : qt.Documented) :
    Accounted qt parse h { g with manager := QtThreads.threadStarts qt g.manager } := by
  unfold QtThreads.threadStarts
  cases hrunning : g.manager.running with
  | true => exact hacc
  | false =>
    have hnot : h.connected = false := by
      rw [← Bool.not_eq_true]
      intro hconnected
      exact absurd (hrunning.symm.trans (hacc.running hconnected)) (by decide)
    have hholds := hacc.waiting_nil hnot
    have hnone : startCalls g.manager = [] := if_neg (by simp [hrunning])
    have hone : startCalls { g.manager with
        running := true
        toWindow := qt.windowCalls.post g.manager.toWindow .onThreadStart } = [.onThreadStart] :=
      if_pos (by simp [hacc.connected, hnot])
    obtain ⟨waiting, hwaits, happs⟩ := hacc.apps
    rw [hnone] at hholds hwaits
    have hempty : waiting.map WindowCall.onAddApp = [] := hwaits.unique hholds
    rw [if_neg (by decide)]
    exact {
      signals := hacc.signals
      client := hacc.client
      apps := by
        refine ⟨waiting, ?_, happs⟩
        show qt.windowCalls.Holds _ (startCalls _ ++ _)
        rw [hone, hempty]
        exact hholds.post hqt.windowCalls .onThreadStart
      rows := hacc.rows
      listed := hacc.listed
      connected := hacc.connected
      early := hacc.early
      running := fun _ => rfl
      launches := hacc.launches }

/-- The window takes a call: `onThreadStart`, or one application. -/
theorem Accounted.windowTurn (hacc : Accounted qt parse h g) (hqt : qt.Documented) :
    Accounted qt parse (h.note qt parse g (.gui .windowTurn)) (takeCall qt g) := by
  obtain ⟨waiting, hwaits, happs⟩ := hacc.apps
  unfold takeCall
  rw [GuiHistory.note]
  by_cases hstart : g.manager.running = true ∧ ¬ g.manager.connected = true
  · have hone : startCalls g.manager = [.onThreadStart] := if_pos hstart
    rw [hone] at hwaits
    obtain ⟨rest, htake, hrest⟩ := hwaits.take_cons
    rw [htake]
    have hnone : startCalls (QtThreads.onThreadStart { g.manager with toWindow := rest }) = [] :=
      if_neg (by simp [QtThreads.onThreadStart])
    exact {
      signals := hacc.signals
      client := hacc.client
      apps := by
        refine ⟨waiting, ?_, happs⟩
        show qt.windowCalls.Holds _ (startCalls _ ++ _)
        rw [hnone]
        exact hrest
      rows := hacc.rows
      listed := hacc.listed
      connected := rfl
      early := nofun
      running := fun _ => hstart.1
      launches := hacc.launches }
  · have hnone : startCalls g.manager = [] := if_neg hstart
    rw [hnone, List.nil_append] at hwaits
    cases waiting with
    | nil =>
      rw [Queue.Holds.take_nil hwaits]
      exact hacc
    | cons app waiting =>
      obtain ⟨rest, htake, hrest⟩ := hwaits.take_cons
      rw [htake]
      obtain ⟨earlier, hlisted⟩ := hacc.listed
      exact {
        signals := hacc.signals
        client := hacc.client
        apps := by
          refine ⟨waiting, ?_, ?_⟩
          · show qt.windowCalls.Holds rest (startCalls g.manager ++ _)
            rw [hnone]
            exact hrest
          · show _ = h.told ++ [app] ++ waiting
            rw [happs, List.append_assoc, List.singleton_append]
        rows := by
          have hrows := hacc.rows.appendRow hqt.appListModel (appItem app)
          rw [GuiHistory.rows, List.append_assoc] at hrows
          show qt.appListModel.Rows _ (_ ++ (h.listed ++ [app]).map appItem)
          rw [List.map_append]
          exact hrows
        listed := by
          refine ⟨earlier, ?_⟩
          show earlier ++ (h.listed ++ [app]) = h.told ++ [app]
          rw [← hlisted, List.append_assoc]
        connected := hacc.connected
        early := hacc.early
        running := hacc.running
        launches := by
          intro appid hmem
          exact (hacc.launches appid hmem).imp id fun ⟨app', happ', hid⟩ =>
            ⟨app', List.mem_append_left _ happ', hid⟩ }

/-- The client takes a signal. -/
theorem Accounted.clientTurn (hacc : Accounted qt parse h g) (hqt : qt.Documented)
    {create list launch : Reply}
    (hstep : QtThreads.takeSignal qt parse create list launch g = .ok g') :
    Accounted qt parse (h.note qt parse g (.gui (.clientTurn create list launch))) g' := by
  rw [GuiHistory.note]
  by_cases hrunning : g.manager.running = true
  · obtain ⟨waiting, hholds, hsent⟩ := hacc.signals
    rw [if_pos hrunning]
    cases waiting with
    | nil =>
      unfold QtThreads.takeSignal at hstep
      rw [if_pos hrunning, hholds.take_nil] at hstep
      rw [hholds.take_nil]
      cases hstep
      exact hacc
    | cons signal waiting =>
      have hconnected : h.connected = true := by
        by_contra hnot
        have hnone := hacc.early (Bool.eq_false_iff.mpr hnot)
        rw [hnone] at hsent
        simp at hsent
      obtain ⟨rest, htake, hrest⟩ := hholds.take_cons
      obtain ⟨shown, hslot, hwindow, hmanager⟩ :=
        takeSignal_cons hrunning (hacc.connected.trans hconnected) htake hstep
      have hshown : (h.call parse g.client (signal.slot create list launch)).shown =
          h.shown ++ shown := by
        rw [GuiHistory.call, hslot]
      rw [htake]
      show Accounted qt parse (h.call parse g.client (signal.slot create list launch)) g'
      exact {
        signals := by
          refine ⟨waiting, ?_, ?_⟩
          · rw [hmanager]
            exact hrest
          · show h.sent = (h.slots ++ [signal.slot create list launch]).map Slot.signal ++ _
            rw [hsent, List.map_append, List.map_singleton, signal_slot, List.append_assoc,
              List.singleton_append]
        client := by
          show performSlots parse _ (h.slots ++ [signal.slot create list launch]) = _
          rw [hshown, performSlots_concat hacc.client, hslot]
          rfl
        apps := by
          obtain ⟨apps, hwaits, happs⟩ := hacc.apps
          refine ⟨apps ++ (shown.filterMap Shown.app).map Program.emitAddApp, ?_, ?_⟩
          · have hposted := hwaits.postAll hqt.windowCalls
              (((shown.filterMap Shown.app).map Program.emitAddApp).map WindowCall.onAddApp)
            rw [hmanager, List.map_append, ← List.append_assoc]
            exact hposted
          · rw [hshown, List.filterMap_append, List.map_append, happs, List.append_assoc]
            rfl
        rows := by
          rw [hwindow]
          exact hacc.rows
        listed := hacc.listed
        connected := by
          rw [hmanager]
          exact hacc.connected
        early := hacc.early
        running := by
          rw [hmanager]
          exact hacc.running
        launches := hacc.launches }
  · unfold QtThreads.takeSignal at hstep
    rw [if_neg hrunning] at hstep
    rw [if_neg hrunning]
    cases hstep
    exact hacc

/-- **One event.** -/
theorem Accounted.step (hacc : Accounted qt parse h g) (hqt : qt.Documented)
    {event : QtThreads.Event} (hstep : QtThreads.step qt parse g event = .ok g') :
    Accounted qt parse (h.note qt parse g event) g' := by
  cases event with
  | threadStarts =>
    cases hstep
    exact hacc.threadStarts hqt
  | gui event =>
    cases event with
    | startButton host port path =>
      cases hstep
      have hsent := hacc.send hqt (.start host port.toUInt32.toUInt16 path) nofun
      exact {
        signals := hsent.signals
        client := hsent.client
        apps := hsent.apps
        rows := Table.rows_clear hqt.appListModel _
        listed := List.nil_suffix
        connected := hsent.connected
        early := hsent.early
        running := hsent.running
        launches := hsent.launches }
    | stopButton =>
      cases hstep
      exact hacc.send hqt .stop nofun
    | doubleClick row column => exact hacc.doubleClick hqt hstep
    | windowTurn =>
      cases hstep
      exact hacc.windowTurn hqt
    | clientTurn create list launch => exact hacc.clientTurn hqt hstep

end Steps

/-! ## Runs -/

/-- At its start there is the item for a test, and nothing else. -/
theorem accounted_init (hqt : qt.Documented) :
    Accounted qt parse .init (QtThreads.Gui.init qt) where
  signals := ⟨[], Queue.holds_empty hqt.clientCalls, rfl⟩
  client := rfl
  apps := ⟨[], Queue.holds_empty hqt.windowCalls, rfl⟩
  rows := (Table.rows_new hqt.appListModel).appendRow hqt.appListModel testItem
  listed := List.nil_suffix
  connected := rfl
  early _ := rfl
  running := nofun
  launches := by
    intro appid hmem
    cases hmem

/-- **A run.** -/
theorem accounted_guiHistory {h : GuiHistory} {g g' : QtThreads.Gui C W M}
    (hacc : Accounted qt parse h g) (hqt : qt.Documented) {events : List QtThreads.Event}
    (hrun : QtThreads.run qt parse g events = .ok g') :
    Accounted qt parse (guiHistory qt parse g h events) g' := by
  induction events generalizing g h with
  | nil =>
    cases hrun
    exact hacc
  | cons event events ih =>
    obtain ⟨t, ht, hrest⟩ := bind_eq_ok.mp hrun
    rw [guiHistory, ht]
    exact ih (hacc.step hqt ht) hrest

/-- A history ends with the event that goes wrong. -/
theorem guiHistory_of_error {h : GuiHistory} {g t : QtThreads.Gui C W M}
    {before : List QtThreads.Event} {event : QtThreads.Event} {fault : Fault}
    (hbefore : QtThreads.run qt parse g before = .ok t)
    (hstep : QtThreads.step qt parse t event = .error fault) (after : List QtThreads.Event) :
    guiHistory qt parse g h (before ++ event :: after) =
      (guiHistory qt parse g h before).note qt parse t event := by
  induction before generalizing g h with
  | nil =>
    cases hbefore
    simp only [List.nil_append, guiHistory, hstep]
  | cons first before ih =>
    obtain ⟨u, hu, hrest⟩ := bind_eq_ok.mp hbefore
    rw [List.cons_append, guiHistory, guiHistory, hu]
    exact ih hrest

/-- A turn of the client that goes wrong calls a slot that goes wrong. -/
theorem takeSignal_eq_error {g : QtThreads.Gui C W M} {create list launch : Reply} {fault : Fault}
    (h : QtThreads.takeSignal qt parse create list launch g = .error fault) :
    g.manager.running = true ∧ ∃ signal rest,
      qt.clientCalls.take g.manager.toClient = some (signal, rest) ∧
      slotStep parse g.client (signal.slot create list launch) = .error fault := by
  unfold QtThreads.takeSignal at h
  by_cases hrunning : g.manager.running = true
  · rw [if_pos hrunning] at h
    refine ⟨hrunning, ?_⟩
    cases htake : qt.clientCalls.take g.manager.toClient with
    | none =>
      rw [htake] at h
      cases h
    | some taken =>
      obtain ⟨signal, rest⟩ := taken
      rw [htake] at h
      refine ⟨signal, rest, rfl, ?_⟩
      cases signal with
      | start ip port path =>
        rcases bind_eq_error.mp h with hstart | ⟨_, -, h⟩
        · exact bind_eq_error.mpr (.inl hstart)
        · cases h
      | stop => cases h
      | launch appid =>
        rcases bind_eq_error.mp h with hlaunch | ⟨_, -, h⟩
        · exact bind_eq_error.mpr (.inl hlaunch)
        · cases h
  · rw [if_neg hrunning] at h
    cases h

/-- A step that goes wrong is a double click beside the list, or a slot that goes wrong. -/
theorem Accounted.fails {h : GuiHistory} {g : QtThreads.Gui C W M} (hacc : Accounted qt parse h g)
    {event : QtThreads.Event} {fault : Fault}
    (hstep : QtThreads.step qt parse g event = .error fault) :
    (∃ row column, event = .gui (.doubleClick row column) ∧
      qt.appListModel.item g.window.appListModel row column = none) ∨
    performSlots parse MirrorLinkClient.init (h.note qt parse g event).slots = .error fault := by
  cases event with
  | threadStarts => cases hstep
  | gui event =>
    cases event with
    | startButton host port path => cases hstep
    | stopButton => cases hstep
    | windowTurn => cases hstep
    | doubleClick row column =>
      refine .inl ⟨row, column, rfl, ?_⟩
      cases hrow : qt.appListModel.item g.window.appListModel row column with
      | none => rfl
      | some item =>
        replace hstep : (QtThreads.onViewDoubleClick qt g.window g.manager row column >>= _) = _ :=
          hstep
        unfold QtThreads.onViewDoubleClick at hstep
        rw [hrow] at hstep
        cases hstep
    | clientTurn create list launch =>
      right
      obtain ⟨hrunning, signal, rest, htake, hslot⟩ := takeSignal_eq_error hstep
      rw [GuiHistory.note, if_pos hrunning, htake]
      show performSlots parse _ (h.slots ++ [signal.slot create list launch]) = _
      rw [performSlots_concat hacc.client, hslot]
      rfl

/-- The answers of the run have not failed. -/
theorem status_ne_zero : (200 : UInt16) ≠ 0 := by decide

/-- The start button, and the two answers to it. -/
def sampleStart : QtThreads.Event :=
  .gui (.startButton (ascii "192.168.42.129") 8080 (ascii "/d.xml"))

def sampleTurn : QtThreads.Event :=
  .gui (.clientTurn (.answered (some ⟨⟨200, some descriptionText⟩, status_ne_zero⟩))
    (.answered (some ⟨⟨200, some appsAnswerText⟩, status_ne_zero⟩)) .refused)

/-- Two buttons are pressed before `onThreadStart`, and a row is launched later. -/
def sampleEvents : List QtThreads.Event :=
  [.gui .stopButton, .threadStarts, sampleStart, .gui .windowTurn, sampleStart, sampleTurn,
    .gui .windowTurn, .gui .windowTurn, .gui (.doubleClick 1 0), sampleTurn]

def sampleGuiHistory : GuiHistory :=
  guiHistory QtThreads.Qt.ofLists parseApps (QtThreads.Gui.init QtThreads.Qt.ofLists) .init
    sampleEvents

/-- **The program is its client.**  Qt makes posted calls in their order, and its model keeps its
items.  Then from the construction of the window on, whatever the user does and however the two
threads take their turns, what is sent before `onThreadStart` is lost, and each signal after it
calls one slot, in the order they were sent in; the client is what these slots make of it by
themselves, and goes wrong only where they do; the window is told of each application that is
shown, once and in order; its rows are those that it was told of since the list was started; and
only the item for a test and applications that were in the list are launched. -/
theorem gui_refines (qt : Qt C W M) (hqt : qt.Documented)
    (parse : Option (List UInt8) → Option Element) (events : List QtThreads.Event) :
    let h := guiHistory qt parse (QtThreads.Gui.init qt) .init events
    (∀ g, QtThreads.run qt parse (QtThreads.Gui.init qt) events = .ok g →
      Accounted qt parse h g) ∧
    ∀ fault, QtThreads.run qt parse (QtThreads.Gui.init qt) events = .error fault →
      (∃ before row column g, before ++ [.gui (.doubleClick row column)] <+: events ∧
        QtThreads.run qt parse (QtThreads.Gui.init qt) before = .ok g ∧
        qt.appListModel.item g.window.appListModel row column = none) ∨
      performSlots parse MirrorLinkClient.init h.slots = .error fault := by
  intro h
  refine ⟨fun g hrun => accounted_guiHistory (accounted_init hqt) hqt hrun, fun fault hrun => ?_⟩
  obtain ⟨before, event, after, t, rfl, hbefore, hstep⟩ := foldlM_eq_error hrun
  have hacc := accounted_guiHistory (accounted_init hqt) hqt hbefore
  rcases hacc.fails hstep with ⟨row, column, rfl, hnone⟩ | hslots
  · refine .inl ⟨before, row, column, t, ?_, hbefore, hnone⟩
    rw [List.append_cons before _ after]
    exact List.prefix_append _ _
  · right
    have hhistory : h = (guiHistory qt parse (QtThreads.Gui.init qt) .init before).note qt parse t
        event := guiHistory_of_error hbefore hstep after
    rw [hhistory]
    exact hslots

/-- A run with signals lost before the start, and others taken after it. -/
theorem gui_refines_of_events :
    sampleGuiHistory.lost = [.stop, .start (ascii "192.168.42.129") 8080 (ascii "/d.xml")] ∧
    sampleGuiHistory.sent =
      [.start (ascii "192.168.42.129") 8080 (ascii "/d.xml"), .launch 0x8000000a] ∧
    ∃ g, QtThreads.run QtThreads.Qt.ofLists parseApps (QtThreads.Gui.init QtThreads.Qt.ofLists)
        sampleEvents = .ok g ∧
      Accounted QtThreads.Qt.ofLists parseApps sampleGuiHistory g := by
  refine ⟨by decide +kernel, by decide +kernel, ?_⟩
  have hreturns : (QtThreads.run QtThreads.Qt.ofLists parseApps
      (QtThreads.Gui.init QtThreads.Qt.ofLists) sampleEvents).isOk = true := by decide +kernel
  have hrefines := gui_refines QtThreads.Qt.ofLists QtThreads.Qt.documented_ofLists parseApps
    sampleEvents
  cases hrun : QtThreads.run QtThreads.Qt.ofLists parseApps
      (QtThreads.Gui.init QtThreads.Qt.ofLists) sampleEvents with
  | error fault =>
    rw [hrun] at hreturns
    cases hreturns
  | ok g => exact ⟨g, rfl, hrefines.1 g hrun⟩

end MirrorLink.Analysis
