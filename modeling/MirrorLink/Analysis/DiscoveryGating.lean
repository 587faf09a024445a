import MirrorLink.Program.Upnp

/-!
# When the server is asked for

The guard before `remote_server_create` asks whether three arrays have an address, which
arrays always have.  So the first pass of the loop that comes to it takes the only attempt,
whatever has been answered by then (`upnpPass_first`), and no later pass does anything more
(`upnpPass_later`).  `discovery_gating` says for which runs that is early enough.
-/

set_option autoImplicit false

namespace MirrorLink.Analysis

open MirrorLink.Library MirrorLink.Program Effectful

/-! ## Gating -/

/-- The datagram answers the search for `target` and has a `Location`. -/
def Answers (target bytes : List UInt8) : Prop :=
  (parseSsdpResp (cstring bytes)).st = target ∧ (parseSsdpResp (cstring bytes)).location ≠ []

/-- Every search target has been answered by one of the datagrams received. -/
def AllAnswered (es : List UpnpEffect) : Prop :=
  ∀ target ∈ searchTargets, ∃ fd bytes, .received fd bytes ∈ es ∧ Answers target bytes

/-- `remote_server_create` is called. -/
def Attempts (es : List UpnpEffect) : Prop := ∃ url, .createServer url ∈ es

/-- The pass from `t` calls `remote_server_create` or sets `serverState` to 1. -/
def Asks (world : ℕ → Pass) (t : Thread) : Prop :=
  Attempts ((upnpPass world).run t).effects ∨
    (t.context.serverState = 0 ∧ ((upnpPass world).run t).state.context.serverState = 1)

/-- In every pass that asks for the server, all search targets have been answered. -/
def Gated (interfaces : List Interface) (world : ℕ → Pass) : Prop :=
  ∀ n, (runAfter interfaces world n).running = true →
    Asks world (runAfter interfaces world n).state →
      AllAnswered ((runAfter interfaces world n).effects ++
        ((upnpPass world).run (runAfter interfaces world n).state).effects)

/-- The sockets that are opened. -/
def opened (os : List Opening) : List ℤ :=
  os.filterMap fun o => match o with
    | .opened fd => some fd
    | _ => none

/-- The datagrams that are waiting in the first pass, at the sockets opened before the loop,
answer all search targets. -/
def FirstPassAnswers (interfaces : List Interface) (world : ℕ → Pass) : Prop :=
  ∀ target ∈ searchTargets, ∃ fd ∈ opened (startupOpenings interfaces), ∃ datagram,
    (world 0).ready fd = some (.data datagram) ∧ Answers target datagram.bytes

/-! ## Opening search sockets -/

/-- An effect that neither receives a datagram nor asks for the server. -/
def UpnpEffect.IsQuiet : UpnpEffect → Prop
  | .received _ _ => False
  | .createServer _ => False
  | _ => True

/-- Quiet effects create no server. -/
theorem not_attempts_of_quiet {es : List UpnpEffect} (h : ∀ e ∈ es, UpnpEffect.IsQuiet e) :
    ¬ Attempts es := by
  rintro ⟨url, hurl⟩
  exact h _ hurl

/-- A change of the context has no effects. -/
theorem emits_modifyContext (P : UpnpEffect → Prop) (f : Context → Context) :
    Emits P (modifyContext f) := by
  intro s e he
  simp [modifyContext] at he

/-- Opening a search is quiet. -/
theorem quiet_openSsdp (o : Opening) : Emits UpnpEffect.IsQuiet (openSsdp o) := by
  have hsent : ∀ fd message, Emits UpnpEffect.IsQuiet
      (emit (.sent fd message) : Upnp Unit) := fun fd message => emits_emit trivial
  cases o with
  | exited => exact emits_pure false
  | bindFailed => exact emits_pure true
  | opened fd =>
    apply emits_bind (hsent _ _)
    intro _
    apply emits_bind (hsent _ _)
    intro _
    apply emits_bind (hsent _ _)
    intro _
    apply emits_bind (emits_modifyContext UpnpEffect.IsQuiet _)
    intro _
    exact emits_pure true

/-- So is opening several. -/
theorem quiet_openAll (os : List Opening) : Emits UpnpEffect.IsQuiet (openAll os) := by
  induction os with
  | nil => exact emits_pure true
  | cons o os ih =>
    apply emits_bind (quiet_openSsdp o)
    intro s
    split
    · exact ih
    · exact emits_pure false

/-- Opening sockets adds the opened ones to the clients, and goes on unless the process
exits. -/
theorem openAll_spec (os : List Opening) (t : Thread) :
    let o := (openAll os).run t
    (o.val = true ↔ Opening.exited ∉ os) ∧ o.state.passes = t.passes ∧
      o.state.context.serverState = t.context.serverState ∧
      o.state.context.mServer = t.context.mServer ∧
      (Opening.exited ∉ os →
        o.state.context.remoteClients = t.context.remoteClients ++ opened os) := by
  induction os generalizing t with
  | nil => simp [openAll, opened]
  | cons o os ih =>
    cases o with
    | exited => simp [openAll, openSsdp]
    | bindFailed =>
      have h := ih t
      simpa [openAll, openSsdp, opened] using h
    | opened fd =>
      have h := ih { t with context := t.context.addClient fd }
      simpa [openAll, openSsdp, opened, modifyContext, Context.addClient] using h

/-! ## Reading the clients -/

/-- The datagram is waiting at the client. -/
def Waiting (p : Pass) (watched : List ℤ) (fd : ℤ) (bytes : List UInt8) : Prop :=
  fd ∈ watched ∧ ∃ datagram, p.ready fd = some (.data datagram) ∧ datagram.bytes = bytes

/-- What reading clients leaves alone. -/
structure Frame (t t' : Thread) : Prop where
  serverState : t'.context.serverState = t.context.serverState
  mServer : t'.context.mServer = t.context.mServer
  passes : t'.passes = t.passes

/-- A ready descriptor changes only the results and the clients. -/
theorem frame_handleReady (p : Pass) (fd : ℤ) (receipt : Receipt) (t : Thread) :
    Frame t ((handleReady p fd receipt).run t).state := by
  have hframe := handleSsdpResp_frame t.context
  cases receipt with
  | data datagram =>
    obtain ⟨hstate, -, hserver⟩ := hframe (cstring (overlay datagram.bytes (p.stack fd).val))
    exact ⟨hstate, hserver, rfl⟩
  | empty => exact ⟨rfl, rfl, rfl⟩
  | failed =>
    obtain ⟨hstate, -, hserver⟩ := hframe (cstring (p.stack fd).val)
    exact ⟨hstate, hserver, rfl⟩

/-- What is done with a ready descriptor. -/
theorem effects_handleReady (p : Pass) (fd : ℤ) (receipt : Receipt) (t : Thread) :
    ((handleReady p fd receipt).run t).effects =
      match receipt with
      | .data datagram => [.received fd datagram.bytes]
      | .empty => [.closed fd]
      | .failed => [] := by
  cases receipt <;> rfl

/-- One client: the datagram waiting there is received, and nothing else. -/
theorem readClient_spec (p : Pass) (watched : List ℤ) (fd : ℤ) (t : Thread) :
    let o := (readClient p watched fd).run t
    Frame t o.state ∧ ¬ Attempts o.effects ∧
      ∀ fd' bytes, .received fd' bytes ∈ o.effects ↔ fd' = fd ∧ Waiting p watched fd bytes := by
  unfold readClient Waiting
  by_cases hw : fd ∈ watched
  · rw [if_pos hw]
    rcases hready : p.ready fd with _ | receipt
    · refine ⟨⟨rfl, rfl, rfl⟩, ?_, ?_⟩
      · simp [Attempts]
      · simp
    · refine ⟨frame_handleReady p fd receipt t, ?_, ?_⟩
      · rintro ⟨url, hurl⟩
        rw [effects_handleReady] at hurl
        cases receipt <;> simp at hurl
      · intro fd' bytes
        rw [effects_handleReady]
        cases receipt with
        | data datagram => simp [hw, eq_comm]
        | empty => simp
        | failed => simp
  · rw [if_neg hw]
    refine ⟨⟨rfl, rfl, rfl⟩, ?_, ?_⟩
    · simp [Attempts]
    · simp [hw]

/-- **The walk over the clients**: what it leaves, and what it does. -/
theorem readClients_spec (p : Pass) (watched clients : List ℤ) (t : Thread) :
    let o := (readClients p watched clients).run t
    Frame t o.state ∧ ¬ Attempts o.effects ∧
      ∀ fd bytes, .received fd bytes ∈ o.effects ↔ fd ∈ clients ∧ Waiting p watched fd bytes := by
  induction clients generalizing t with
  | nil => exact ⟨⟨rfl, rfl, rfl⟩, by simp [readClients, Attempts], by simp [readClients]⟩
  | cons fd clients ih =>
    obtain ⟨hframe, hquiet, hreceived⟩ := readClient_spec p watched fd t
    obtain ⟨hframe', hquiet', hreceived'⟩ := ih ((readClient p watched fd).run t).state
    refine ⟨⟨?_, ?_, ?_⟩, ?_, ?_⟩
    · exact hframe'.serverState.trans hframe.serverState
    · exact hframe'.mServer.trans hframe.mServer
    · exact hframe'.passes.trans hframe.passes
    · rintro ⟨url, hurl⟩
      rw [readClients, effects_bind, List.mem_append] at hurl
      rcases hurl with hurl | hurl
      · exact hquiet ⟨url, hurl⟩
      · exact hquiet' ⟨url, hurl⟩
    · intro fd' bytes
      rw [readClients, effects_bind, List.mem_append, hreceived, hreceived', List.mem_cons]
      constructor
      · rintro (⟨rfl, hw⟩ | ⟨hmem, hw⟩)
        · exact ⟨.inl rfl, hw⟩
        · exact ⟨.inr hmem, hw⟩
      · rintro ⟨rfl | hmem, hw⟩
        · exact .inl ⟨rfl, hw⟩
        · exact .inr ⟨hmem, hw⟩

/-! ## Asking for the server -/

/-- As long as the server has not been asked for, it is now. -/
theorem getAppList_first (p : Pass) (t : Thread) (hstate : t.context.serverState = 0)
    (hserver : t.context.mServer = false) :
    let o := (getAppList p).run t
    Attempts o.effects ∧ o.state.passes = t.passes ∧
      (o.val = true → o.state.context.serverState = 1) ∧
      ∀ fd bytes, .received fd bytes ∉ o.effects := by
  have hrun : (getAppList p).run t =
      ((useServer p p.creation).run t).after [.createServer t.context.tmApplicationServer] := by
    unfold getAppList remoteServer
    rw [run_gets_bind, if_pos ⟨hstate, rfl, rfl, rfl⟩, hserver]
    rfl
  intro o
  have ho : o = (getAppList p).run t := rfl
  rw [ho, hrun]
  cases p.creation with
  | neverReturns => simp [useServer, Attempts]
  | failed => simp [useServer, Attempts, serve, modifyContext]
  | created =>
    cases hlist : p.listReturns <;>
      simp [useServer, hlist, Attempts, serve, modifyContext]

/-- Once it has asked, it does not ask again. -/
theorem getAppList_later (p : Pass) (t : Thread) (hstate : t.context.serverState = 1) :
    (getAppList p).run t = ⟨true, t, []⟩ := by
  unfold getAppList
  rw [run_gets_bind, if_neg (by rw [hstate]; simp)]
  rfl

/-! ## One pass -/

/-- A pass in which the process exits ends the thread and asks for nothing. -/
theorem upnpPass_exited (world : ℕ → Pass) (t : Thread)
    (h : Opening.exited ∈ (world t.passes).netlink) :
    let o := (upnpPass world).run t
    o.val = false ∧ ¬ Attempts o.effects ∧
      o.state.context.serverState = t.context.serverState := by
  obtain ⟨hval, -, hstate, -, -⟩ :=
    openAll_spec (world t.passes).netlink { t with passes := t.passes + 1 }
  have hquiet := not_attempts_of_quiet
    (quiet_openAll (world t.passes).netlink { t with passes := t.passes + 1 })
  have hfalse : ¬ ((openAll (world t.passes).netlink).run
      { t with passes := t.passes + 1 }).val = true := fun hv => hval.mp hv h
  intro o
  have ho : o = (upnpPass world).run t := rfl
  unfold upnpPass at ho
  rw [run_gets_bind, run_bind_of (run_modify _ _), run_bind, id, if_neg hfalse] at ho
  rw [ho]
  refine ⟨rfl, ?_, hstate⟩
  simpa using hquiet

/-- A pass without exit: the datagrams waiting at the clients there were before it are
received, and then the application list may be asked for. -/
theorem upnpPass_goes_on (world : ℕ → Pass) (t : Thread)
    (h : Opening.exited ∉ (world t.passes).netlink) :
    ∃ (t' : Thread) (es : List UpnpEffect),
      (upnpPass world).run t = ((getAppList (world t.passes)).run t').after es ∧
        t'.context.serverState = t.context.serverState ∧
        t'.context.mServer = t.context.mServer ∧ t'.passes = t.passes + 1 ∧ ¬ Attempts es ∧
        ∀ fd bytes, .received fd bytes ∈ es ↔
          Waiting (world t.passes) t.context.remoteClients fd bytes := by
  have hopen := openAll_spec (world t.passes).netlink { t with passes := t.passes + 1 }
  have hsent := quiet_openAll (world t.passes).netlink { t with passes := t.passes + 1 }
  rcases ha : (openAll (world t.passes).netlink).run { t with passes := t.passes + 1 } with
    ⟨running, t1, sent⟩
  rw [ha] at hopen hsent
  obtain ⟨hval, hpasses, hstate, hserver, hclients⟩ := hopen
  obtain ⟨hframe, hquiet, hreceived⟩ := readClients_spec (world t.passes)
    t.context.remoteClients t1.context.remoteClients t1
  refine ⟨_, sent ++ ((readClients (world t.passes) t.context.remoteClients
    t1.context.remoteClients).run t1).effects, ?_, hframe.serverState.trans hstate,
    hframe.mServer.trans hserver, hframe.passes.trans hpasses, ?_, ?_⟩
  · unfold upnpPass
    rw [run_gets_bind, run_bind_of (run_modify _ _), id, run_bind_of ha, if_pos (hval.mpr h),
      run_gets_bind, run_bind]
    simp [Outcome.after]
  · rintro ⟨url, hurl⟩
    rcases List.mem_append.mp hurl with hurl | hurl
    · exact hsent _ hurl
    · exact hquiet ⟨url, hurl⟩
  · intro fd bytes
    rw [List.mem_append, hreceived, hclients h]
    constructor
    · rintro (hmem | ⟨-, hw⟩)
      · exact absurd (hsent _ hmem) not_false
      · exact hw
    · intro hw
      exact .inr ⟨List.mem_append_left _ hw.1, hw⟩

/-- **The first pass** that is not ended by an exit asks for the server, whatever it has
received. -/
theorem upnpPass_first (world : ℕ → Pass) (t : Thread) (hstate : t.context.serverState = 0)
    (hserver : t.context.mServer = false) (h : Opening.exited ∉ (world t.passes).netlink) :
    let o := (upnpPass world).run t
    Attempts o.effects ∧ (o.val = true → o.state.context.serverState = 1) ∧
      ∀ fd bytes, .received fd bytes ∈ o.effects ↔
        Waiting (world t.passes) t.context.remoteClients fd bytes := by
  obtain ⟨t', es, hrun, hstate', hserver', -, -, hreceived⟩ := upnpPass_goes_on world t h
  obtain ⟨⟨url, hurl⟩, -, hserved, hnone⟩ := getAppList_first (world t.passes) t'
    (hstate'.trans hstate) (hserver'.trans hserver)
  intro o
  have ho : o = ((getAppList (world t.passes)).run t').after es := hrun
  rw [ho]
  refine ⟨⟨url, List.mem_append_right _ hurl⟩, hserved, ?_⟩
  intro fd bytes
  rw [Outcome.effects_after, List.mem_append, hreceived]
  exact or_iff_left (hnone fd bytes)

/-- **A later pass** asks for nothing. -/
theorem upnpPass_later (world : ℕ → Pass) (t : Thread) (hstate : t.context.serverState = 1) :
    let o := (upnpPass world).run t
    ¬ Attempts o.effects ∧ o.state.context.serverState = 1 := by
  by_cases h : Opening.exited ∈ (world t.passes).netlink
  · obtain ⟨-, hquiet, hsame⟩ := upnpPass_exited world t h
    exact ⟨hquiet, hsame.trans hstate⟩
  · obtain ⟨t', es, hrun, hstate', -, -, hquiet, -⟩ := upnpPass_goes_on world t h
    rw [getAppList_later (world t.passes) t' (hstate'.trans hstate)] at hrun
    intro o
    have ho : o = Outcome.after ⟨true, t', []⟩ es := hrun
    rw [ho]
    refine ⟨?_, hstate'.trans hstate⟩
    simpa using hquiet

/-- Once the state is one, no pass asks. -/
theorem not_asks_later (world : ℕ → Pass) (t : Thread) (hstate : t.context.serverState = 1) :
    ¬ Asks world t := by
  rintro (hattempt | ⟨h0, -⟩)
  · exact (upnpPass_later world t hstate).1 hattempt
  · rw [hstate] at h0
    cases h0

/-- A pass that ends the program does not ask. -/
theorem not_asks_exited (world : ℕ → Pass) (t : Thread)
    (h : Opening.exited ∈ (world t.passes).netlink) : ¬ Asks world t := by
  obtain ⟨-, hnone, hsame⟩ := upnpPass_exited world t h
  rintro (hattempt | ⟨h0, h1⟩)
  · exact hnone hattempt
  · rw [hsame, h0] at h1
    cases h1

/-! ## Runs -/

/-- What the start does, and what it leaves. -/
theorem startup_spec (interfaces : List Interface) :
    let o := (startup interfaces).run ⟨Context.zero, 0⟩
    (o.val = true ↔ Opening.exited ∉ startupOpenings interfaces) ∧
      (Opening.exited ∉ startupOpenings interfaces →
        o.state.context.remoteClients = opened (startupOpenings interfaces)) ∧
      o.state.passes = 0 ∧ o.state.context.serverState = 0 ∧ o.state.context.mServer = false ∧
      ∀ e ∈ o.effects, UpnpEffect.IsQuiet e := by
  obtain ⟨hval, hpasses, hstate, hserver, hclients⟩ :=
    openAll_spec (startupOpenings interfaces) ⟨Context.zero, 0⟩
  exact ⟨hval, hclients, hpasses, hstate, hserver, quiet_openAll _ _⟩

/-- A start that ends the program runs no pass. -/
theorem runAfter_of_exited (interfaces : List Interface) (world : ℕ → Pass) (n : ℕ)
    (h : Opening.exited ∈ startupOpenings interfaces) :
    (runAfter interfaces world n).running = false := by
  have hval := (startup_spec interfaces).1
  unfold runAfter
  rw [if_neg (fun hv => hval.mp hv h)]

/-- Before the first pass there is what the start left. -/
theorem runAfter_zero (interfaces : List Interface) (world : ℕ → Pass)
    (h : Opening.exited ∉ startupOpenings interfaces) :
    runAfter interfaces world 0 =
      ⟨((startup interfaces).run ⟨Context.zero, 0⟩).state,
        ((startup interfaces).run ⟨Context.zero, 0⟩).effects, true⟩ := by
  have hval := (startup_spec interfaces).1
  unfold runAfter
  simp only [rounds_zero, List.append_nil, if_pos (hval.mpr h)]

/-- A loop that is running after `n + 1` passes made the last of them from where it stood
after `n`. -/
theorem runAfter_succ (interfaces : List Interface) (world : ℕ → Pass) (n : ℕ)
    (h : (runAfter interfaces world (n + 1)).running = true) :
    (runAfter interfaces world n).running = true ∧
      ((upnpPass world).run (runAfter interfaces world n).state).val = true ∧
      (runAfter interfaces world (n + 1)).state =
        ((upnpPass world).run (runAfter interfaces world n).state).state := by
  by_cases hexit : Opening.exited ∈ startupOpenings interfaces
  · rw [runAfter_of_exited _ _ _ hexit] at h
    cases h
  · have hval := (startup_spec interfaces).1.mpr hexit
    unfold runAfter at h ⊢
    simp only [if_pos hval] at h ⊢
    have hn := running_of_le _ _ (Nat.le_succ n) h
    rw [rounds_succ _ _ _ hn] at h ⊢
    exact ⟨hn, h, rfl⟩

/-- A loop that has made a pass and is still running has asked for the server. -/
theorem serverState_of_running (interfaces : List Interface) (world : ℕ → Pass) (n : ℕ)
    (h : (runAfter interfaces world (n + 1)).running = true) :
    (runAfter interfaces world (n + 1)).state.context.serverState = 1 := by
  induction n with
  | zero =>
    obtain ⟨hrunning, hval, hnext⟩ := runAfter_succ interfaces world 0 h
    have hexit : Opening.exited ∉ startupOpenings interfaces := by
      intro hexit
      rw [runAfter_of_exited _ _ _ hexit] at hrunning
      cases hrunning
    obtain ⟨-, -, hpasses, hstate, hserver, -⟩ := startup_spec interfaces
    rw [hnext]
    rw [runAfter_zero _ _ hexit] at hval ⊢
    by_cases hnetlink : Opening.exited ∈ (world 0).netlink
    · rw [← hpasses] at hnetlink
      rw [(upnpPass_exited world _ hnetlink).1] at hval
      cases hval
    · rw [← hpasses] at hnetlink
      exact (upnpPass_first world _ hstate hserver hnetlink).2.1 hval
  | succ n ih =>
    obtain ⟨hrunning, -, hnext⟩ := runAfter_succ interfaces world (n + 1) h
    rw [hnext]
    exact (upnpPass_later world _ (ih hrunning)).2

/-- Only the first pass can ask. -/
theorem gated_iff_first (interfaces : List Interface) (world : ℕ → Pass)
    (h : Opening.exited ∉ startupOpenings interfaces) :
    Gated interfaces world ↔
      (Asks world ((startup interfaces).run ⟨Context.zero, 0⟩).state →
        AllAnswered (((startup interfaces).run ⟨Context.zero, 0⟩).effects ++
          ((upnpPass world).run ((startup interfaces).run ⟨Context.zero, 0⟩).state).effects)) := by
  have hzero := runAfter_zero interfaces world h
  constructor
  · intro hgated
    have hfirst := hgated 0
    rw [hzero] at hfirst
    exact hfirst rfl
  · intro hfirst n hrunning hasks
    cases n with
    | zero =>
      rw [hzero] at hasks ⊢
      exact hfirst hasks
    | succ n =>
      have hserved := serverState_of_running interfaces world n hrunning
      exact absurd hasks (not_asks_later world _ hserved)

/-- What the first pass has received is what was waiting at the sockets opened before it. -/
theorem allAnswered_first_iff (interfaces : List Interface) (world : ℕ → Pass)
    (hexit : Opening.exited ∉ startupOpenings interfaces)
    (hnetlink : Opening.exited ∉ (world 0).netlink) :
    AllAnswered (((startup interfaces).run ⟨Context.zero, 0⟩).effects ++
        ((upnpPass world).run ((startup interfaces).run ⟨Context.zero, 0⟩).state).effects) ↔
      FirstPassAnswers interfaces world := by
  obtain ⟨-, hclients, hpasses, hstate, hserver, hquiet⟩ := startup_spec interfaces
  rw [← hpasses] at hnetlink
  obtain ⟨-, -, hreceived⟩ := upnpPass_first world _ hstate hserver hnetlink
  rw [hpasses, hclients hexit] at hreceived
  constructor
  · intro hall target htarget
    obtain ⟨fd, bytes, hmem, hanswers⟩ := hall target htarget
    rcases List.mem_append.mp hmem with hmem | hmem
    · exact absurd (hquiet _ hmem) not_false
    · obtain ⟨hfd, datagram, hready, rfl⟩ := (hreceived fd bytes).mp hmem
      exact ⟨fd, hfd, datagram, hready, hanswers⟩
  · intro hfirst target htarget
    obtain ⟨fd, hfd, datagram, hready, hanswers⟩ := hfirst target htarget
    have hmem := (hreceived fd datagram.bytes).mpr ⟨hfd, datagram, hready, rfl⟩
    exact ⟨fd, datagram.bytes, List.mem_append_right _ hmem, hanswers⟩

/-- **Discovery gating.**  The server is asked for only when all targets have been answered
if and only if the process exits before the guard, or the first pass of the loop finds all
the answers waiting.  The `next` of a client that is removed is taken to be intact when the loop
over the clients reads it. -/
theorem discovery_gating (interfaces : List Interface) (world : ℕ → Pass) :
    Gated interfaces world ↔
      Opening.exited ∈ startupOpenings interfaces ∨ Opening.exited ∈ (world 0).netlink ∨
        FirstPassAnswers interfaces world := by
  by_cases hexit : Opening.exited ∈ startupOpenings interfaces
  · apply iff_of_true
    · intro n hrunning
      rw [runAfter_of_exited _ _ _ hexit] at hrunning
      cases hrunning
    · exact .inl hexit
  obtain ⟨-, -, hpasses, hstate, hserver, -⟩ := startup_spec interfaces
  rw [gated_iff_first _ _ hexit, or_iff_right hexit]
  by_cases hnetlink : Opening.exited ∈ (world 0).netlink
  · apply iff_of_true
    · intro hasks
      exact absurd hasks (not_asks_exited world _ (by rw [hpasses]; exact hnetlink))
    · exact .inl hnetlink
  have hasks := (upnpPass_first world _ hstate hserver (by rw [hpasses]; exact hnetlink)).1
  rw [or_iff_right hnetlink, ← allAnswered_first_iff _ _ hexit hnetlink]
  constructor
  · intro hgated
    exact hgated (.inl hasks)
  · intro hall _
    exact hall

/-- A phone on the tethering network, from which nothing has arrived when the first
`select` times out. -/
def silentPhone : List Interface := [⟨ascii "192.168.42.129", .opened 5⟩]

/-- A world in which nothing arrives. -/
def silence : ℕ → Pass := fun _ => ⟨[], fun _ => none, fun _ => Block.zero 1025, .failed, true⟩

/-- The only attempt is made in the first pass, at an empty address, before anything has been
answered. -/
theorem discovery_gating_fails :
    ¬ Gated silentPhone silence ∧
      UpnpEffect.createServer [] ∈ (runAfter silentPhone silence 1).effects := by
  constructor
  · intro hgated
    obtain ⟨fd, bytes, hmem, -⟩ := hgated 0 (by decide +kernel)
      (.inr (by decide +kernel)) tmTas (by decide)
    have heffects : (runAfter silentPhone silence 0).effects ++
        ((upnpPass silence).run (runAfter silentPhone silence 0).state).effects =
        [.sent 5 (createSsdpMessage tmTas), .sent 5 (createSsdpMessage tmTcp),
          .sent 5 (createSsdpMessage tmTsd), .createServer []] := by
      decide +kernel
    rw [heffects] at hmem
    simp at hmem
  · decide +kernel

end MirrorLink.Analysis
