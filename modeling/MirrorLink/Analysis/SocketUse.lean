import MirrorLink.Analysis.UpnpThread
import MirrorLink.Library.Typestate

/-!
# The lives of a search socket

A search socket sends its three searches in their order and is then read any number of times.
Every descriptor lives so, over any run of the thread that goes nowhere wrong, and those that have
begun a life are the sockets of the chain (`socket_use`).  None is ever closed: a client is removed
when it is sent an empty datagram, and the loop over the clients then goes on from the node that
has been freed, so that no run gets past that.

This needs that the system gives no descriptor that is open.
-/

set_option autoImplicit false

namespace MirrorLink.Analysis

open MirrorLink.Library MirrorLink.Program Effectful

/-! ## The protocol -/

/-- Where a descriptor is in its life. -/
inductive SocketState where
  /-- So many of its searches have been sent; before the first of them it is not open. -/
  | sending (sent : ℕ)
  | client
  deriving DecidableEq, Repr

/-- The messages of a search, in order. -/
def searches : List (List UInt8) := searchTargets.map createSsdpMessage

/-- Where an effect on the descriptor leads, if it may come. -/
def socketStep (fd : ℤ) : SocketState → UpnpEffect → Option SocketState
  | .sending n, .sent fd' message =>
    if fd' = fd then
      if searches[n]? = some message then
        some (if n + 1 = searches.length then .client else .sending (n + 1))
      else none
    else some (.sending n)
  | .client, .sent fd' _ => if fd' = fd then none else some .client
  | .sending n, .received fd' _ => if fd' = fd then none else some (.sending n)
  | .client, .received _ _ => some .client
  | q, .closed fd' => if fd' = fd then none else some q
  | q, _ => some q

/-- What is done with other descriptors is not seen. -/
theorem socketStep_sent_of_ne {fd fd' : ℤ} (h : fd' ≠ fd) (q : SocketState) (message : List UInt8) :
    socketStep fd q (.sent fd' message) = some q := by
  cases q <;> exact if_neg h

/-- What is received from another descriptor does not concern this one. -/
theorem socketStep_received_of_ne {fd fd' : ℤ} (h : fd' ≠ fd) (q : SocketState)
    (bytes : List UInt8) : socketStep fd q (.received fd' bytes) = some q := by
  cases q with
  | sending => exact if_neg h
  | client => rfl

/-- A descriptor that is closed has left its protocol. -/
theorem foldlM_of_closed {fd : ℤ} {es : List UpnpEffect} (h : .closed fd ∈ es) (q : SocketState) :
    es.foldlM (socketStep fd) q = none := by
  induction es generalizing q with
  | nil => cases h
  | cons e es ih =>
    rw [List.foldlM_cons]
    rcases List.mem_cons.mp h with rfl | h
    · cases q <;> simp [socketStep]
    · cases socketStep fd q e with
      | none => rfl
      | some q' => exact ih h q'

/-- Where the descriptor is when these are the clients. -/
def stateAmong (fd : ℤ) (clients : List ℤ) : SocketState :=
  if fd ∈ clients then .client else .sending 0

/-- The clients are different, and the descriptor is where it is among them. -/
def Among (fd : ℤ) (clients : List ℤ) (s : Thread) (q : SocketState) : Prop :=
  s.context.remoteClients = clients ∧ clients.Nodup ∧ q = stateAmong fd clients

/-- No descriptor is given, before an exit, that is open. -/
def OpensFresh (clients : List ℤ) (os : List Opening) : Prop :=
  ∀ before fd after, os = before ++ .opened fd :: after → .exited ∉ before →
    fd ∉ clients ∧ fd ∉ opened before

/-- The searches that are left open new descriptors among those there are now. -/
theorem OpensFresh.tail {clients : List ℤ} {o : Opening} {os : List Opening}
    (h : OpensFresh clients (o :: os)) (ho : o ≠ .exited) :
    OpensFresh (clients ++ opened [o]) os := by
  rintro before fd after rfl hexit
  have hmem : .exited ∉ o :: before := by
    rw [List.mem_cons, not_or]
    exact ⟨ho.symm, hexit⟩
  obtain ⟨hclients, hbefore⟩ := h (o :: before) fd after rfl hmem
  have hopened : opened (o :: before) = opened [o] ++ opened before :=
    List.filterMap_append (l := [o])
  rw [hopened, List.mem_append, not_or] at hbefore
  exact ⟨by simp [hclients, hbefore.1], hbefore.2⟩

/-! ## Openings -/

section Lives

variable {fd : ℤ}

/-- The three searches begin a life. -/
theorem foldlM_searches (fd : ℤ) : ([.sent fd (createSsdpMessage tmTas),
    .sent fd (createSsdpMessage tmTcp), .sent fd (createSsdpMessage tmTsd)] :
      List UpnpEffect).foldlM (socketStep fd) (.sending 0) = some .client := by
  simp [List.foldlM, socketStep, searches, searchTargets]

/-- Opening a search sends, and then the descriptor is a client's. -/
theorem obeys_openSsdp {clients : List ℤ} {o : Opening} (hfresh : OpensFresh clients [o]) :
    Obeys (socketStep fd) (Among fd clients) (openSsdp o) fun running s q =>
      running = decide (o ≠ .exited) ∧ Among fd (clients ++ opened [o]) s q := by
  cases o with
  | exited =>
    refine obeys_pure fun s q h => ⟨rfl, ?_⟩
    rwa [show opened [.exited] = [] from rfl, List.append_nil]
  | bindFailed =>
    refine obeys_pure fun s q h => ⟨rfl, ?_⟩
    rwa [show opened [.bindFailed] = [] from rfl, List.append_nil]
  | opened fd' =>
    rintro s _ ⟨hclients, hnodup, rfl⟩
    have hnew : fd' ∉ clients := (hfresh [] fd' [] rfl List.not_mem_nil).1
    have hstate : ((openSsdp (.opened fd')).run s).state.context.remoteClients =
        clients ++ [fd'] := by
      rw [← hclients]
      rfl
    have hnodup' : (clients ++ [fd']).Nodup := by
      rw [← List.concat_eq_append]
      exact hnodup.concat hnew
    refine ⟨stateAmong fd (clients ++ [fd']), ?_, rfl, hstate, hnodup', rfl⟩
    show ([.sent fd' _, .sent fd' _, .sent fd' _] : List UpnpEffect).foldlM _ _ = _
    by_cases hfd : fd' = fd
    · subst hfd
      rw [stateAmong, stateAmong, if_neg hnew, if_pos (by simp), foldlM_searches]
    · have hsame : stateAmong fd (clients ++ [fd']) = stateAmong fd clients := by
        simp [stateAmong, Ne.symm hfd]
      simp [List.foldlM, socketStep_sent_of_ne hfd, hsame]

/-- So it is whatever the clients are. -/
def AmongClients (fd : ℤ) (s : Thread) (q : SocketState) : Prop :=
  Among fd s.context.remoteClients s q

/-- A descriptor of the clients is one. -/
theorem Among.clients {clients : List ℤ} {s : Thread} {q : SocketState} (h : Among fd clients s q) :
    AmongClients fd s q := by
  obtain ⟨rfl, h⟩ := h
  exact ⟨rfl, h⟩

/-- Opening several searches obeys the rule. -/
theorem obeys_openAll {clients : List ℤ} {os : List Opening} (hfresh : OpensFresh clients os) :
    Obeys (socketStep fd) (Among fd clients) (openAll os) fun _ => AmongClients fd := by
  induction os generalizing clients with
  | nil => exact obeys_pure fun s q h => h.clients
  | cons o os ih =>
    have hfirst : OpensFresh clients [o] := by
      rintro before fd' after hbefore hexit
      refine hfresh before fd' (after ++ os) ?_ hexit
      rw [← List.singleton_append, hbefore, List.append_assoc]
      rfl
    refine obeys_bind (obeys_openSsdp hfirst) fun running => ?_
    refine obeys_ite (fun hrunning => ?_) fun _ => obeys_pure fun s q h => h.2.clients
    by_cases ho : o = .exited
    · rintro s q ⟨hval, -⟩
      rw [hrunning, ho] at hval
      cases hval
    · exact (ih (hfresh.tail ho)).mono (fun s q h => h.2) fun _ s q h => h

/-! ## A pass -/

/-- The clients that are still to be read are open. -/
def Unread (fd : ℤ) (fds : List ℤ) (s : Thread) (q : SocketState) : Prop :=
  AmongClients fd s q ∧ fds ⊆ s.context.remoteClients

/-- One of them needs no more reading. -/
theorem Unread.tail {fd' : ℤ} {fds : List ℤ} {s : Thread} {q : SocketState}
    (h : Unread fd (fd' :: fds) s q) : Unread fd fds s q :=
  ⟨h.1, fun _ ha => h.2 (List.mem_cons_of_mem _ ha)⟩

/-- What is done with the text of a datagram is not seen. -/
theorem obeys_handle (buffer : List UInt8) (fds : List ℤ) :
    Obeys (socketStep fd) (Unread fd fds) (modifyContext (handleSsdpResp · buffer))
      fun _ => Unread fd fds :=
  obeys_modify fun s q h => by
    unfold Unread AmongClients Among at h ⊢
    rwa [(handleSsdpResp_frame s.context buffer).2.1]

/-- A client may be read. -/
theorem obeys_received (fd' : ℤ) (bytes : List UInt8) (fds : List ℤ) :
    Obeys (socketStep fd) (Unread fd (fd' :: fds)) (emit (.received fd' bytes))
      fun _ => Unread fd fds := by
  refine obeys_emit fun s q h => ⟨q, ?_, h.tail⟩
  by_cases hfd : fd' = fd
  · subst hfd
    obtain ⟨⟨-, -, rfl⟩, hsubset⟩ := h
    rw [stateAmong, if_pos (hsubset List.mem_cons_self)]
    rfl
  · exact socketStep_received_of_ne hfd q _

/-- A client that is not sent an empty datagram is read, or left alone. -/
theorem obeys_readClient {p : Pass} {watched : List ℤ} {fd' : ℤ} (hopen : StaysOpen p watched fd')
    (fds : List ℤ) : Obeys (socketStep fd) (Unread fd (fd' :: fds)) (readClient p watched fd')
      fun _ => Unread fd fds := by
  unfold readClient
  cases hready : if fd' ∈ watched then p.ready fd' else none with
  | none => exact obeys_pure fun s q h => h.tail
  | some receipt =>
    cases receipt with
    | failed => exact (obeys_handle _ fds).mono (fun s q h => h.tail) fun _ _ _ h => h
    | data datagram => exact obeys_bind (obeys_received fd' _ fds) fun _ => obeys_handle _ fds
    | empty =>
      split at hready
      next hmem => exact absurd ⟨hmem, hready⟩ hopen.2
      next => cases hready

/-- Reading the clients obeys the rule. -/
theorem obeys_readClients {p : Pass} {watched fds : List ℤ}
    (hopen : ∀ fd' ∈ fds, StaysOpen p watched fd') :
    Obeys (socketStep fd) (Unread fd fds) (readClients p watched fds)
      fun _ => AmongClients fd := by
  induction fds with
  | nil => exact obeys_pure fun s q h => h.1
  | cons fd' fds ih =>
    refine obeys_bind (obeys_readClient (hopen fd' List.mem_cons_self) fds) fun _ => ?_
    exact ih fun fd'' hmem => hopen fd'' (List.mem_cons_of_mem _ hmem)

/-- Asking for the list touches no descriptor of a search. -/
theorem effects_getAppList (p : Pass) (s : Thread) :
    ∀ e ∈ ((getAppList p).run s).effects, (∃ url, e = .createServer url) ∨
      e = .getApplicationList := by
  unfold getAppList remoteServer
  rw [run_gets_bind]
  split
  · cases hserver : s.context.mServer <;> cases p.creation <;> cases hlist : p.listReturns <;>
      simp [useServer, serve, modifyContext, hserver, hlist, run_bind]
  · simp

/-- So it obeys the rule. -/
theorem obeys_getAppList (p : Pass) :
    Obeys (socketStep fd) (AmongClients fd) (getAppList p) fun _ => AmongClients fd := by
  refine obeys_of_unseen (fun s e he q => ?_) fun s q h => ?_
  · rcases effects_getAppList p s e he with ⟨url, rfl⟩ | rfl <;> cases q <;> rfl
  · obtain ⟨-, -, hclients⟩ := getAppList_clients p s.context [] s.passes
    unfold AmongClients Among at h ⊢
    rwa [show ((getAppList p).run s).state.context.remoteClients = _ from hclients]

/-- **A pass** in which no client is sent an empty datagram goes on with every life. -/
theorem obeys_upnpPass {netlinkSocket multicastSocket : ℤ} {world : ℕ → Pass} {s : Thread}
    {q : SocketState} (h : AmongClients fd s q)
    (hfresh : OpensFresh s.context.remoteClients (world s.passes).netlink)
    (hsafe : PassSafe netlinkSocket multicastSocket s.context.remoteClients (world s.passes)) :
    ∃ q', ((upnpPass world).run s).effects.foldlM (socketStep fd) q = some q' ∧
      AmongClients fd ((upnpPass world).run s).state q' := by
  obtain ⟨q₁, hopen, h₁⟩ := obeys_openAll hfresh { s with passes := s.passes + 1 } q h
  obtain ⟨hval, -, -, -, hclients⟩ :=
    openAll_spec (world s.passes).netlink { s with passes := s.passes + 1 }
  rw [run_upnpPass]
  split
  next hrunning =>
    have hexit := hval.mp hrunning
    have hread := hsafe.read hexit
    rw [← hclients hexit] at hread
    obtain ⟨q₂, hreads, h₂⟩ := obeys_readClients hread _ q₁ ⟨h₁, List.Subset.refl _⟩
    obtain ⟨q₃, hlist, h₃⟩ := obeys_getAppList (world s.passes) _ q₂ h₂
    refine ⟨q₃, ?_, h₃⟩
    rw [Outcome.effects_after, List.foldlM_append, List.foldlM_append, hopen]
    show (_ >>= _) = _
    rw [Option.bind_eq_bind, Option.bind_some, hreads]
    exact hlist
  next => exact ⟨q₁, hopen, h₁⟩

/-! ## Runs -/

/-- The start obeys the rule. -/
theorem obeys_startup {interfaces : List Interface} (world : ℕ → Pass)
    (hstartup : OpensFresh [] (startupOpenings interfaces)) :
    ∃ q, (runAfter interfaces world 0).effects.foldlM (socketStep fd) (.sending 0) = some q ∧
      AmongClients fd (runAfter interfaces world 0).state q := by
  have hopen : Obeys (socketStep fd) (Among fd []) (openAll (startupOpenings interfaces))
      fun _ => AmongClients fd := obeys_openAll hstartup
  obtain ⟨q, hrun, hq⟩ := hopen ⟨Context.zero, 0⟩ (.sending 0) ⟨rfl, List.nodup_nil, rfl⟩
  refine ⟨q, ?_, ?_⟩
  · rw [← hrun]
    unfold runAfter
    dsimp only
    split <;> simp [startup]
  · unfold runAfter
    dsimp only
    split <;> exact hq

end Lives

/-- No descriptor is given that is one of the thread's own sockets or of its clients. -/
def GivesUnused (netlinkSocket multicastSocket : ℤ) (clients : List ℤ) (p : Pass) : Prop :=
  OpensFresh (netlinkSocket :: multicastSocket :: clients) p.netlink

/-- What is new among more is new among fewer. -/
theorem OpensFresh.mono {clients clients' : List ℤ} {os : List Opening}
    (h : OpensFresh clients os) (hsubset : clients' ⊆ clients) : OpensFresh clients' os :=
  fun before fd after hos hexit => (h before fd after hos hexit).imp_left fun hnot hmem =>
    hnot (hsubset hmem)

/-- No search opens nothing. -/
theorem opensFresh_nil (clients : List ℤ) : OpensFresh clients [] := by
  intro before fd after h
  cases before <;> cases h

/-- One descriptor is given. -/
theorem opensFresh_singleton {clients : List ℤ} {fd : ℤ} (h : fd ∉ clients) :
    OpensFresh clients [.opened fd] := by
  intro before fd' after hos _
  cases before with
  | nil =>
    cases hos
    exact ⟨h, List.not_mem_nil⟩
  | cons o before =>
    have hlength := congrArg List.length hos
    simp at hlength

/-- A descriptor that is given is not among the clients. -/
theorem OpensFresh.notMem {clients : List ℤ} {os : List Opening} (h : OpensFresh clients os)
    (hexit : Opening.exited ∉ os) {fd : ℤ} (hfd : fd ∈ opened os) : fd ∉ clients := by
  obtain ⟨o, ho, hsome⟩ := List.mem_filterMap.mp hfd
  obtain ⟨before, after, rfl⟩ := List.append_of_mem ho
  cases o with
  | exited => cases hsome
  | bindFailed => cases hsome
  | opened fd' =>
    cases hsome
    exact (h before fd after rfl fun hmem => hexit (List.mem_append_left _ hmem)).1

/-- The clients are still different when some have been opened. -/
theorem OpensFresh.nodup {clients : List ℤ} {os : List Opening} (h : OpensFresh clients os)
    (hexit : Opening.exited ∉ os) (hnodup : clients.Nodup) : (clients ++ opened os).Nodup := by
  induction os generalizing clients with
  | nil => rwa [show opened [] = [] from rfl, List.append_nil]
  | cons o os ih =>
    rw [List.mem_cons, not_or] at hexit
    have hopened : opened (o :: os) = opened [o] ++ opened os :=
      List.filterMap_append (l := [o])
    rw [hopened, ← List.append_assoc]
    refine ih (h.tail (Ne.symm hexit.1)) hexit.2 ?_
    cases o with
    | exited => exact absurd rfl hexit.1
    | bindFailed => rwa [show opened [.bindFailed] = [] from rfl, List.append_nil]
    | opened fd =>
      have hnew : fd ∉ clients := (h [] fd os rfl List.not_mem_nil).1
      have hnodup' := hnodup.concat hnew
      rwa [List.concat_eq_append] at hnodup'

/-- Descriptors that are not in use are new. -/
theorem GivesUnused.givesFresh {netlinkSocket multicastSocket : ℤ} {clients : List ℤ} {p : Pass}
    (h : GivesUnused netlinkSocket multicastSocket clients p) (hnodup : clients.Nodup) :
    GivesFresh netlinkSocket multicastSocket clients p := by
  intro hexit
  have hclients : OpensFresh clients p.netlink := OpensFresh.mono h (by simp)
  refine ⟨hclients.nodup hexit hnodup, fun hmem => ?_, fun hmem => ?_⟩
  · exact OpensFresh.notMem h hexit hmem (by simp)
  · exact OpensFresh.notMem h hexit hmem (by simp)

/-- What goes wrong does not return. -/
theorem GoesWrong.ne_ok {α : Type} {x : Except Fault α} (h : GoesWrong x) (a : α) :
    x ≠ .ok a := by
  rcases h with rfl | ⟨b, rfl⟩ <;> exact nofun

/-- The thread over the chain has come, without going wrong, to where the thread with a list is,
and a descriptor is in its life where it is among the clients. -/
structure Lives (netlinkSocket multicastSocket : ℤ) (interfaces : List Interface)
    (world : ℕ → Pass) (n : ℕ) (fd : ℤ) (running : Bool) (t : LinkedThread) : Prop where
  running : running = (runAfter interfaces world n).running
  thread : ∃ addrs, IsThread t addrs (runAfter interfaces world n).state
    (runAfter interfaces world n).effects
  life : ∃ q, (runAfter interfaces world n).effects.foldlM (socketStep fd) (.sending 0) = some q ∧
    AmongClients fd (runAfter interfaces world n).state q
  fresh : InEachPass interfaces world n (GivesFresh netlinkSocket multicastSocket)

section Runs

variable {calloc : Heap RemoteClient → ℕ} (hcalloc : CallocFinds calloc)
  {netlinkSocket multicastSocket : ℤ} {interfaces : List Interface} {world : ℕ → Pass} {n : ℕ}
  {fd : ℤ} {running running' : Bool} {t t' : LinkedThread}

include hcalloc

/-- **One more pass** that goes nowhere wrong. -/
theorem Lives.pass (h : Lives netlinkSocket multicastSocket interfaces world n fd running t)
    (hrun : LinkedThread.runAfter calloc netlinkSocket multicastSocket interfaces world n =
      .ok (running, t))
    (hunused : running = true → GivesUnused netlinkSocket multicastSocket
      (runAfter interfaces world n).state.context.remoteClients (world n))
    (hnext : LinkedThread.runAfter calloc netlinkSocket multicastSocket interfaces world (n + 1) =
      .ok (running', t')) :
    Lives netlinkSocket multicastSocket interfaces world (n + 1) fd running' t' := by
  obtain ⟨rfl, ⟨addrs, hthread⟩, ⟨q, hlife, hamong⟩, hfresh⟩ := h
  have hall : InEachPass interfaces world (n + 1) (GivesFresh netlinkSocket multicastSocket) :=
    inEachPass_succ.mpr ⟨hfresh, fun hr => (hunused hr).givesFresh hamong.2.1⟩
  obtain ⟨hgoes, hwrong⟩ := runAfter_succ_refines hcalloc hall hrun hthread
  have hsafe := not_not.mp fun hnot => (hwrong hnot).ne_ok _ hnext
  obtain ⟨t'', addrs', hlinked, hthread'⟩ := hgoes hsafe
  rw [hnext] at hlinked
  cases hlinked
  refine ⟨rfl, ⟨addrs', hthread'⟩, ?_, hall⟩
  rw [runAfter_pass]
  by_cases hr : (runAfter interfaces world n).running = true
  · have hpasses := passes_runAfter interfaces world n hr
    have hnow : OpensFresh (runAfter interfaces world n).state.context.remoteClients
        (world (runAfter interfaces world n).state.passes).netlink := by
      rw [hpasses]
      exact OpensFresh.mono (hunused hr) (by simp)
    have hthis : PassSafe netlinkSocket multicastSocket
        (runAfter interfaces world n).state.context.remoteClients
        (world (runAfter interfaces world n).state.passes) := by
      rw [hpasses]
      exact hsafe hr
    obtain ⟨q', hpass, hamong'⟩ := obeys_upnpPass hamong hnow hthis
    rw [if_pos hr]
    refine ⟨q', ?_, hamong'⟩
    show List.foldlM _ _ (_ ++ _) = _
    rw [List.foldlM_append, hlife]
    exact hpass
  · rw [if_neg hr]
    exact ⟨q, hlife, hamong⟩

/-- **In every run over the chain** a descriptor obeys the rule as long as nothing goes wrong. -/
theorem lives_runAfter (hstartup : OpensFresh [] (startupOpenings interfaces))
    (hunused : InEachPass interfaces world n (GivesUnused netlinkSocket multicastSocket))
    (hrun : LinkedThread.runAfter calloc netlinkSocket multicastSocket interfaces world n =
      .ok (running, t)) (fd : ℤ) :
    Lives netlinkSocket multicastSocket interfaces world n fd running t := by
  induction n generalizing running t with
  | zero =>
    obtain ⟨t', addrs, hlinked, hthread⟩ :=
      startup_refines hcalloc netlinkSocket multicastSocket interfaces world
    rw [hrun] at hlinked
    cases hlinked
    exact ⟨rfl, ⟨addrs, hthread⟩, obeys_startup world hstartup,
      fun i hi => absurd hi (Nat.not_lt_zero i)⟩
  | succ n ih =>
    obtain ⟨hbefore, hlast⟩ := inEachPass_succ.mp hunused
    obtain ⟨⟨running₀, t₀⟩, hrun₀, -⟩ :=
      bind_eq_ok.mp ((linked_runAfter_succ calloc).symm.trans hrun)
    have h := ih hbefore hrun₀
    exact h.pass hcalloc hrun₀ (fun hr => hlast (h.running ▸ hr)) hrun

end Runs

/-- **Every descriptor is searched with, and then read.**  In any run over the chain that goes
nowhere wrong, as long as the system gives no descriptor that is open: what the thread does with a
descriptor is three searches in their order, and then any number of reads.  It has begun with it
just if it is the socket of a node in the chain, and it has closed none. -/
theorem socket_use {calloc : Heap RemoteClient → ℕ} (hcalloc : CallocFinds calloc)
    {netlinkSocket multicastSocket : ℤ} {interfaces : List Interface} {world : ℕ → Pass} {n : ℕ}
    (hstartup : OpensFresh [] (startupOpenings interfaces))
    (hunused : InEachPass interfaces world n (GivesUnused netlinkSocket multicastSocket))
    {running : Bool} {t : LinkedThread}
    (hrun : LinkedThread.runAfter calloc netlinkSocket multicastSocket interfaces world n =
      .ok (running, t)) :
    ∃ addrs, Chain t.clients.nodes t.clients.remoteClients addrs none ∧
      (∀ fd, t.effects.foldlM (socketStep fd) (.sending 0) =
        some (if fd ∈ socketsAt t.clients addrs then .client else .sending 0)) ∧
      ∀ fd, .closed fd ∉ t.effects := by
  obtain ⟨-, ⟨addrs, hthread⟩, -, -⟩ := lives_runAfter hcalloc hstartup hunused hrun 0
  have hlife : ∀ fd, t.effects.foldlM (socketStep fd) (.sending 0) =
      some (if fd ∈ socketsAt t.clients addrs then .client else .sending 0) := by
    intro fd
    obtain ⟨-, -, ⟨q, hlife, -, -, rfl⟩, -⟩ := lives_runAfter hcalloc hstartup hunused hrun fd
    rw [hthread.effects, hlife, hthread.sockets]
    rfl
  refine ⟨addrs, hthread.owns.chain, hlife, fun fd hclosed => ?_⟩
  have hnone := foldlM_of_closed hclosed (.sending 0)
  rw [hlife fd] at hnone
  cases hnone

/-- A world in which the search socket is sent a datagram in the first pass, and an address is
added in the second. -/
def answeredSearch : ℕ → Pass := fun i =>
  ⟨if i = 1 then [.opened 6] else [],
    fun _ => if i = 0 then some (.data ⟨[72, 84], by decide, by decide⟩) else none,
    fun _ => Block.zero 1025, .failed, true⟩

/-- One client has been read when the other begins. -/
theorem socket_use_of_answeredSearch :
    ∃ t, LinkedThread.runAfter firstFree 3 4 silentPhone answeredSearch 2 = .ok (true, t) ∧
      .received 5 [72, 84] ∈ t.effects ∧
      t.effects.foldlM (socketStep 5) (.sending 0) = some .client ∧
      t.effects.foldlM (socketStep 6) (.sending 0) = some .client := by
  have hclients : ∀ i < 2,
      (runAfter silentPhone answeredSearch i).state.context.remoteClients = [5] := by
    decide +kernel
  have hstartup : OpensFresh [] (startupOpenings silentPhone) :=
    opensFresh_singleton List.not_mem_nil
  have hunused : InEachPass silentPhone answeredSearch 2 (GivesUnused 3 4) := by
    intro i hi _
    rw [hclients i hi]
    obtain rfl | rfl : i = 0 ∨ i = 1 := by omega
    · exact opensFresh_nil _
    · exact opensFresh_singleton (by decide)
  have hfresh : InEachPass silentPhone answeredSearch 2 (GivesFresh 3 4) := fun i hi hr =>
    (hunused i hi hr).givesFresh (by rw [hclients i hi]; simp)
  have hsafe : InEachPass silentPhone answeredSearch 2 (PassSafe 3 4) := by
    intro i hi _
    rw [hclients i hi]
    refine ⟨by decide, by decide, fun _ fd hfd => ⟨?_, ?_⟩⟩
    · have hmem : fd = 5 ∨ fd = 6 := by
        obtain rfl | rfl : i = 0 ∨ i = 1 := by omega
        all_goals simp [answeredSearch, opened] at hfd
        all_goals omega
      unfold InFdSet
      omega
    · rintro ⟨-, hempty⟩
      simp only [answeredSearch] at hempty
      split at hempty <;> cases hempty
  obtain ⟨t, addrs, hrun, hthread⟩ := runAfter_refines callocFinds_firstFree hfresh hsafe
  have hrunning : (runAfter silentPhone answeredSearch 2).running = true := by decide +kernel
  rw [hrunning] at hrun
  obtain ⟨addrs', hchain, hlife, -⟩ :=
    socket_use callocFinds_firstFree hstartup hunused hrun
  obtain rfl := hthread.owns.chain.unique hchain
  have hsockets : socketsAt t.clients addrs = [5, 6] := by
    rw [hthread.sockets]
    decide +kernel
  refine ⟨t, hrun, ?_, ?_, ?_⟩
  · rw [hthread.effects]
    decide +kernel
  · rw [hlife, hsockets]
    rfl
  · rw [hlife, hsockets]
    rfl

end MirrorLink.Analysis
