import MirrorLink.Analysis.ClientOperations
import MirrorLink.Analysis.DiscoveryGating
import MirrorLink.Program.UpnpThread
import Mathlib.Data.Fintype.EquivFin
import Mathlib.Order.Lattice.Nat

/-!
# The discovery thread and its chain

As long as every descriptor has a bit in the set, and no client is sent an empty datagram, the
thread uses no node after it has freed it, and does over its chain of clients what the thread of
`Upnp` does with a list of them; otherwise it goes wrong in the pass in which that is no longer so
(`upnp_thread_refines`).  This needs that the system gives no descriptor that is open.
-/

set_option autoImplicit false

namespace MirrorLink.Analysis

open MirrorLink.Library MirrorLink.Program Effectful

/-! ## The chain as a list -/

/-- The sockets of the nodes at some addresses. -/
def socketsAt (c : RemoteClients) (addrs : List ℕ) : List ℤ :=
  (c.nodes.values addrs).map RemoteClient.sockFd

/-- The thread is where the thread with a list of clients is. -/
structure IsThread (t : LinkedThread) (addrs : List ℕ) (s : Thread) (es : List UpnpEffect) :
    Prop where
  owns : HasClients t.clients addrs (t.clients.nodes.values addrs)
  sockets : socketsAt t.clients addrs = s.context.remoteClients
  made : addrs.length ≤ t.made
  context : { t.context with remoteClients := s.context.remoteClients } = s.context
  passes : t.passes = s.passes
  effects : t.effects = es

/-- There are turns for all clients. -/
theorem IsThread.turns {t : LinkedThread} {addrs : List ℕ} {s : Thread} {es : List UpnpEffect}
    (h : IsThread t addrs s es) : addrs.length < t.turns :=
  Nat.lt_succ_of_le h.made

/-- The sockets of cells that are there. -/
theorem map_sockAt {c : RemoteClients} {addrs : List ℕ} (hall : ∀ a ∈ addrs, c.nodes a ≠ none) :
    addrs.map (sockAt c) = (socketsAt c addrs).map some := by
  induction addrs with
  | nil => rfl
  | cons a addrs ih =>
    obtain ⟨cell, hcell⟩ := Option.ne_none_iff_exists'.mp (hall a List.mem_cons_self)
    have hrest := ih fun b hb => hall b (List.mem_cons_of_mem _ hb)
    unfold socketsAt at hrest ⊢
    rw [Heap.values_cons hcell, List.map_cons, List.map_cons, List.map_cons, hrest, sockAt, hcell]
    rfl

/-- Each socket is at one address. -/
theorem address_unique {c : RemoteClients} {addrs : List ℕ} (hall : ∀ a ∈ addrs, c.nodes a ≠ none)
    (hnodup : (socketsAt c addrs).Nodup) {a b : ℕ} (ha : a ∈ addrs) (hb : b ∈ addrs)
    (heq : sockAt c a = sockAt c b) : a = b := by
  have hmap : (addrs.map (sockAt c)).Nodup := by
    rw [map_sockAt hall]
    exact hnodup.map (Option.some_injective ℤ)
  exact List.inj_on_of_nodup_map hmap ha hb heq

/-! ## Opening sockets -/

/-- `calloc` gives what is not allocated, if there is any. -/
def CallocFinds (calloc : Heap RemoteClient → ℕ) : Prop :=
  ∀ h : Heap RemoteClient, (∃ a, h a = none) → h (calloc h) = none

section Opening

variable {calloc : Heap RemoteClient → ℕ} (hcalloc : CallocFinds calloc) {t : LinkedThread}
  {addrs : List ℕ} {s : Thread} {es : List UpnpEffect}

include hcalloc

/-- A new cell was free. -/
theorem unallocated_calloc {c : RemoteClients} {clients : List RemoteClient}
    (h : HasClients c addrs clients) : c.nodes (calloc c.nodes) = none := by
  apply hcalloc
  obtain ⟨a, ha⟩ := Infinite.exists_notMem_finset addrs.toFinset
  refine ⟨a, ?_⟩
  by_contra hne
  exact ha (List.mem_toFinset.mpr (h.owned a hne))

/-- **`open_ssdp`.** -/
theorem openSsdp_refines (h : IsThread t addrs s es) (o : Opening) :
    let r := (openSsdp o).run s
    ∃ t' addrs', t.openSsdp calloc o = .ok (r.val, t') ∧
      IsThread t' addrs' r.state (es ++ r.effects) := by
  cases o with
  | exited =>
    refine ⟨t, addrs, rfl, ?_⟩
    simpa [openSsdp] using h
  | bindFailed =>
    refine ⟨t, addrs, rfl, ?_⟩
    simpa [openSsdp] using h
  | opened fd =>
    obtain ⟨c', hadd, howns, hnode, -, -⟩ := addClient_spec h.owns h.turns
      (unallocated_calloc hcalloc h.owns) fd LinkedThread.groupAddr
    have hvalues := howns.values
    refine ⟨_, addrs ++ [calloc t.clients.nodes], bind_eq_ok.mpr ⟨_, hadd, rfl⟩, ?_⟩
    exact {
      owns := by
        rw [← hvalues] at howns
        exact howns
      sockets := by
        show (c'.nodes.values _).map RemoteClient.sockFd = s.context.remoteClients ++ [fd]
        rw [hvalues, List.map_append, ← h.sockets]
        rfl
      made := by
        rw [List.length_append, List.length_singleton]
        exact Nat.succ_le_succ h.made
      context := by
        have hcontext := h.context
        show { t.context with remoteClients := s.context.remoteClients ++ [fd] } =
          s.context.addClient fd
        rw [Context.addClient, ← hcontext]
      passes := h.passes
      effects := by
        show t.effects ++ _ = es ++ _
        rw [h.effects]
        rfl }

/-- **Opening searches** links the clients that the model adds. -/
theorem openAll_refines (h : IsThread t addrs s es) (os : List Opening) :
    let r := (openAll os).run s
    ∃ t' addrs', t.openAll calloc os = .ok (r.val, t') ∧
      IsThread t' addrs' r.state (es ++ r.effects) := by
  induction os generalizing t addrs s es with
  | nil =>
    refine ⟨t, addrs, rfl, ?_⟩
    simpa [openAll] using h
  | cons o os ih =>
    obtain ⟨t₁, addrs₁, hopen, h₁⟩ := openSsdp_refines hcalloc h o
    rw [openAll, run_bind, LinkedThread.openAll]
    cases hval : ((openSsdp o).run s).val with
    | false =>
      rw [hval] at hopen
      refine ⟨t₁, addrs₁, bind_eq_ok.mpr ⟨_, hopen, rfl⟩, ?_⟩
      simpa using h₁
    | true =>
      rw [hval] at hopen
      obtain ⟨t₂, addrs₂, hrest, h₂⟩ := ih h₁
      refine ⟨t₂, addrs₂, bind_eq_ok.mpr ⟨_, hopen, hrest⟩, ?_⟩
      rw [List.append_assoc] at h₂
      exact h₂

end Opening

/-! ## Descriptor sets -/

/-- A descriptor in the set is in the array. -/
theorem fdIndex_eq {fd : ℤ} (h : InFdSet fd) : fdIndex fd = .ok () := if_pos h

/-- Any other is behind it. -/
theorem fdIndex_fails {fd : ℤ} (h : ¬ InFdSet fd) : fdIndex fd = .error .outsideArray := if_neg h

/-- The two sockets are watched. -/
theorem watchSockets_eq {netlinkSocket multicastSocket : ℤ} (hnetlink : InFdSet netlinkSocket)
    (hmulticast : InFdSet multicastSocket) :
    ∃ maxFd, watchSockets netlinkSocket multicastSocket =
      .ok ⟨[netlinkSocket, multicastSocket], maxFd⟩ := by
  refine ⟨if multicastSocket > netlinkSocket then multicastSocket else netlinkSocket,
    bind_eq_ok.mpr ⟨(), fdIndex_eq hnetlink, ?_⟩⟩
  exact bind_eq_ok.mpr ⟨(), fdIndex_eq hmulticast, rfl⟩

/-- Unless one of them is behind the array. -/
theorem watchSockets_fails {netlinkSocket multicastSocket : ℤ}
    (h : ¬ (InFdSet netlinkSocket ∧ InFdSet multicastSocket)) :
    watchSockets netlinkSocket multicastSocket = .error .outsideArray := by
  by_cases hnetlink : InFdSet netlinkSocket
  · have hmulticast : ¬ InFdSet multicastSocket := fun hmulticast => h ⟨hnetlink, hmulticast⟩
    refine bind_eq_error.mpr (.inr ⟨(), fdIndex_eq hnetlink, ?_⟩)
    exact bind_eq_error.mpr (.inl (fdIndex_fails hmulticast))
  · exact bind_eq_error.mpr (.inl (fdIndex_fails hnetlink))

/-- The socket of the first cell comes first. -/
theorem socketsAt_cons {c : RemoteClients} {a : ℕ} {cell : Cell RemoteClient}
    (ha : c.nodes a = some cell) (addrs : List ℕ) :
    socketsAt c (a :: addrs) = cell.value.sockFd :: socketsAt c addrs := by
  rw [socketsAt, Heap.values_cons ha, List.map_cons]
  rfl

/-- **The clients are watched**: every one of them is in the set, and no greater than `max_fd`. -/
theorem watchClients_spec {c : RemoteClients} {rc : Option ℕ} {addrs : List ℕ}
    (hchain : Chain c.nodes rc addrs none) {turns : ℕ} (hturns : addrs.length < turns)
    (w : Watch) :
    ((∀ fd ∈ socketsAt c addrs, InFdSet fd) → ∃ maxFd, watchClients c.nodes turns rc w =
      .ok ⟨w.readfds ++ socketsAt c addrs, maxFd⟩ ∧ w.maxFd ≤ maxFd ∧
        ∀ fd ∈ socketsAt c addrs, fd ≤ maxFd) ∧
    ((∃ fd ∈ socketsAt c addrs, ¬ InFdSet fd) →
      watchClients c.nodes turns rc w = .error .outsideArray) := by
  induction addrs generalizing rc turns w with
  | nil =>
    cases hchain
    obtain ⟨turns, rfl⟩ := Nat.exists_eq_succ_of_ne_zero (Nat.ne_of_gt hturns)
    constructor
    · intro _
      refine ⟨w.maxFd, ?_, le_refl _, by simp [socketsAt, Heap.values]⟩
      simp [watchClients, socketsAt, Heap.values]
      rfl
    · rintro ⟨fd, hfd, -⟩
      cases hfd
  | cons a addrs ih =>
    cases hchain with
    | cons ha hrest =>
    rename_i cell
    obtain ⟨turns, rfl⟩ := Nat.exists_eq_succ_of_ne_zero (Nat.ne_of_gt (Nat.zero_lt_of_lt hturns))
    rw [List.length_cons] at hturns
    rw [socketsAt_cons ha]
    have hnext : watchClients c.nodes (turns + 1) (some a) w =
        (w.add cell.value.sockFd >>= watchClients c.nodes turns cell.next) := by
      rw [watchClients, Heap.load_eq ha]
      rfl
    by_cases hfd : InFdSet cell.value.sockFd
    · obtain ⟨hok, hfails⟩ := ih hrest (Nat.lt_of_succ_lt_succ hturns)
        ⟨w.readfds ++ [cell.value.sockFd],
          if cell.value.sockFd > w.maxFd then cell.value.sockFd else w.maxFd⟩
      have hadd : w.add cell.value.sockFd = .ok ⟨w.readfds ++ [cell.value.sockFd],
          if cell.value.sockFd > w.maxFd then cell.value.sockFd else w.maxFd⟩ :=
        bind_eq_ok.mpr ⟨(), fdIndex_eq hfd, rfl⟩
      constructor
      · intro hall
        obtain ⟨maxFd, hrun, hle, hmax⟩ := hok fun fd hmem => hall fd (List.mem_cons_of_mem _ hmem)
        rw [List.append_assoc] at hrun
        refine ⟨maxFd, hnext.trans (bind_eq_ok.mpr ⟨_, hadd, hrun⟩), ?_, ?_⟩
        · dsimp only at hle
          split at hle <;> omega
        · intro fd hmem
          rcases List.mem_cons.mp hmem with rfl | hmem
          · dsimp only at hle
            split at hle <;> omega
          · exact hmax fd hmem
      · rintro ⟨fd, hmem, hnot⟩
        rcases List.mem_cons.mp hmem with rfl | hmem
        · exact absurd hfd hnot
        · have hfault := hfails ⟨fd, hmem, hnot⟩
          exact hnext.trans (bind_eq_error.mpr (.inr ⟨_, hadd, hfault⟩))
    · constructor
      · intro hall
        exact absurd (hall _ List.mem_cons_self) hfd
      · intro _
        refine hnext.trans (bind_eq_error.mpr (.inl ?_))
        exact bind_eq_error.mpr (.inl (fdIndex_fails hfd))

/-! ## Reading the clients -/

/-- An answer is handled without a look at the clients. -/
theorem handleSsdpResp_clients (context : Context) (clients : List ℤ) (buffer : List UInt8) :
    handleSsdpResp { context with remoteClients := clients } buffer =
      { handleSsdpResp context buffer with remoteClients := clients } := by
  unfold handleSsdpResp
  dsimp only
  split_ifs <;> rfl

/-- The list of applications is fetched without a look at the clients. -/
theorem getAppList_clients (p : Pass) (context : Context) (clients : List ℤ) (passes : ℕ) :
    let o := (Program.getAppList p).run ⟨context, passes⟩
    (Program.getAppList p).run ⟨{ context with remoteClients := clients }, passes⟩ =
        ⟨o.val, ⟨{ o.state.context with remoteClients := clients }, passes⟩, o.effects⟩ ∧
      o.state.passes = passes ∧ o.state.context.remoteClients = context.remoteClients := by
  unfold Program.getAppList remoteServer
  dsimp only
  rw [run_gets_bind, run_gets_bind]
  dsimp only
  split
  · cases hserver : context.mServer <;> cases p.creation <;> cases hlist : p.listReturns <;>
      simp [useServer, serve, modifyContext, hserver, hlist, run_bind]
  · simp

/-- Nothing is used after this client has been read: its bit exists, and it is not removed. -/
def StaysOpen (p : Pass) (watched : List ℤ) (fd : ℤ) : Prop :=
  InFdSet fd ∧ ¬ (fd ∈ watched ∧ p.ready fd = some .empty)

/-- A descriptor without a bit, or a node that has been freed. -/
def GoesWrong {α : Type} (x : Except Fault α) : Prop :=
  x = .error .outsideArray ∨ ∃ a, x = .error (.freedCell a)

/-- What goes wrong first goes wrong. -/
theorem GoesWrong.bind {α β : Type} {x : Except Fault α} (h : GoesWrong x)
    (f : α → Except Fault β) : GoesWrong (x >>= f) := by
  rcases h with rfl | ⟨a, rfl⟩
  · exact .inl rfl
  · exact .inr ⟨a, rfl⟩

/-- And so does what goes wrong then. -/
theorem GoesWrong.bind_right {α β : Type} {x : Except Fault α} {a : α} (hx : x = .ok a)
    {f : α → Except Fault β} (h : GoesWrong (f a)) : GoesWrong (x >>= f) := by
  rw [hx]
  exact h

section Reading

variable {t : LinkedThread} {addrs : List ℕ} {s : Thread} {es : List UpnpEffect} {p : Pass}
  {w : Watch} {watched : List ℤ}

/-- A descriptor is set if it is watched and ready. -/
theorem isSet_eq {fd : ℤ} (hfd : InFdSet fd)
    (hset : (fd ∈ w.readfds ∧ fd < w.maxFd + 1) ↔ fd ∈ watched) :
    w.isSet p fd = .ok (if fd ∈ watched then p.ready fd else none) := by
  refine bind_eq_ok.mpr ⟨(), fdIndex_eq hfd, ?_⟩
  simp only [hset]
  rfl

/-- An answer is taken from the buffer. -/
theorem IsThread.handle (h : IsThread t addrs s es) (buffer : List UInt8)
    (events : List UpnpEffect) :
    IsThread { t.did events with context := handleSsdpResp t.context buffer } addrs
      { s with context := handleSsdpResp s.context buffer } (es ++ events) where
  owns := h.owns
  sockets := by
    rw [(handleSsdpResp_frame s.context buffer).2.1]
    exact h.sockets
  made := h.made
  context := by
    rw [(handleSsdpResp_frame s.context buffer).2.1]
    show { handleSsdpResp t.context buffer with remoteClients := s.context.remoteClients } = _
    rw [← handleSsdpResp_clients, h.context]
  passes := h.passes
  effects := congrArg (· ++ events) h.effects

/-- **A client that stays open.** -/
theorem readClient_refines (h : IsThread t addrs s es) {fd : ℤ}
    (hset : (fd ∈ w.readfds ∧ fd < w.maxFd + 1) ↔ fd ∈ watched) (hopen : StaysOpen p watched fd) :
    let o := (Program.readClient p watched fd).run s
    ∃ t', t.readClient p w fd = .ok t' ∧ t'.clients = t.clients ∧
      IsThread t' addrs o.state (es ++ o.effects) := by
  obtain ⟨hfd, hnot⟩ := hopen
  rw [LinkedThread.readClient, isSet_eq hfd hset, Program.readClient]
  cases hready : if fd ∈ watched then p.ready fd else none with
  | none =>
    refine ⟨t, rfl, rfl, ?_⟩
    simpa using h
  | some receipt =>
    cases receipt with
    | data datagram => exact ⟨_, rfl, rfl, h.handle _ _⟩
    | failed =>
      refine ⟨_, rfl, rfl, ?_⟩
      have hhandled := h.handle (cstring (p.stack fd).val) []
      rw [LinkedThread.did, List.append_nil] at hhandled
      exact hhandled
    | empty =>
      split at hready
      next hmem => exact absurd ⟨hmem, hready⟩ hnot
      next => cases hready

/-- **A client that is sent an empty datagram** is freed. -/
theorem readClient_frees (h : IsThread t addrs s es) (hnodup : s.context.remoteClients.Nodup)
    {a : ℕ} (ha : a ∈ addrs) {cell : Cell RemoteClient} (hcell : t.clients.nodes a = some cell)
    (hset : (cell.value.sockFd ∈ w.readfds ∧ cell.value.sockFd < w.maxFd + 1) ↔
      cell.value.sockFd ∈ watched) (hfd : InFdSet cell.value.sockFd)
    (hempty : cell.value.sockFd ∈ watched ∧ p.ready cell.value.sockFd = some .empty) :
    ∃ t', t.readClient p w cell.value.sockFd = .ok t' ∧ t'.clients.nodes a = none := by
  have hsock : sockAt t.clients a = some cell.value.sockFd := by rw [sockAt, hcell]; rfl
  rw [← h.sockets] at hnodup
  rw [LinkedThread.readClient, isSet_eq hfd hset, if_pos hempty.1, hempty.2]
  rcases removeClient_owns h.owns h.turns cell.value.sockFd with
    ⟨-, hnone⟩ | ⟨front, rc, after, c', haddrs, hremove, -, hfreed, -⟩
  · exact absurd hsock (hnone a ha)
  · have hrc : rc = a := by
      apply address_unique h.owns.chain.allocated hnodup _ ha (hfreed.found.trans hsock.symm)
      rw [haddrs]
      simp
    refine ⟨_, bind_eq_ok.mpr ⟨_, rfl, bind_eq_ok.mpr ⟨_, hremove, rfl⟩⟩, ?_⟩
    rw [← hrc]
    exact hfreed.unallocated

/-- **The loop over the clients**, from any node of the chain. -/
theorem readClients_refines (p : Pass) (w : Watch) (h : IsThread t addrs s es)
    (hnodup : s.context.remoteClients.Nodup) {rc : Option ℕ} {rest : List ℕ}
    (hrest : rest ⊆ addrs) (hchain : Chain t.clients.nodes rc rest none) {turns : ℕ}
    (hturns : rest.length < turns)
    (hset : ∀ fd ∈ socketsAt t.clients rest,
      (fd ∈ w.readfds ∧ fd < w.maxFd + 1) ↔ fd ∈ watched) :
    let o := (Program.readClients p watched (socketsAt t.clients rest)).run s
    ((∀ fd ∈ socketsAt t.clients rest, StaysOpen p watched fd) →
      ∃ t', LinkedThread.readClients p w turns rc t = .ok t' ∧
        IsThread t' addrs o.state (es ++ o.effects)) ∧
    ((∃ fd ∈ socketsAt t.clients rest, ¬ StaysOpen p watched fd) →
      GoesWrong (LinkedThread.readClients p w turns rc t)) := by
  induction rest generalizing t s es rc turns with
  | nil =>
    cases hchain
    obtain ⟨turns, rfl⟩ := Nat.exists_eq_succ_of_ne_zero (Nat.ne_of_gt hturns)
    constructor
    · intro _
      refine ⟨t, rfl, ?_⟩
      simpa [socketsAt, Heap.values, Program.readClients] using h
    · rintro ⟨fd, hfd, -⟩
      cases hfd
  | cons a rest ih =>
    cases hchain with
    | cons ha hnext =>
    rename_i cell
    obtain ⟨turns, rfl⟩ := Nat.exists_eq_succ_of_ne_zero (Nat.ne_of_gt (Nat.zero_lt_of_lt hturns))
    have hmem : a ∈ addrs := hrest List.mem_cons_self
    rw [socketsAt_cons ha] at hset ⊢
    have hload : t.clients.nodes.load a = .ok cell := Heap.load_eq ha
    have hhead := hset _ List.mem_cons_self
    by_cases hopen : StaysOpen p watched cell.value.sockFd
    · obtain ⟨t₁, hread, hclients, h₁⟩ := readClient_refines h hhead hopen
      have hstep : LinkedThread.readClients p w (turns + 1) (some a) t =
          LinkedThread.readClients p w turns cell.next t₁ := by
        have hload₁ : t₁.clients.nodes.load a = .ok cell := by rw [hclients, hload]
        rw [LinkedThread.readClients, hload]
        show (t.readClient p w cell.value.sockFd >>= _) = _
        rw [hread]
        show (t₁.clients.nodes.load a >>= _) = _
        rw [hload₁]
        rfl
      have hnodup₁ : ((Program.readClient p watched cell.value.sockFd).run
          s).state.context.remoteClients.Nodup := by
        rw [← h₁.sockets, hclients, h.sockets]
        exact hnodup
      rw [← hclients] at hnext hset ⊢
      obtain ⟨hok, hfails⟩ := ih h₁ hnodup₁ (fun b hb => hrest (List.mem_cons_of_mem _ hb)) hnext
        (Nat.lt_of_succ_lt_succ hturns) fun fd hfd => hset fd (List.mem_cons_of_mem _ hfd)
      rw [hstep]
      constructor
      · intro hall
        obtain ⟨t₂, hrun, h₂⟩ := hok fun fd hfd => hall fd (List.mem_cons_of_mem _ hfd)
        refine ⟨t₂, hrun, ?_⟩
        rw [List.append_assoc] at h₂
        exact h₂
      · rintro ⟨fd, hfd, hnot⟩
        rcases List.mem_cons.mp hfd with rfl | hfd
        · exact absurd hopen hnot
        · exact hfails ⟨fd, hfd, hnot⟩
    · refine ⟨fun hall => absurd (hall _ List.mem_cons_self) hopen, fun _ => ?_⟩
      apply GoesWrong.bind_right hload
      by_cases hfd : InFdSet cell.value.sockFd
      · -- the node is freed, and its link is read
        have hempty := not_not.mp fun hnot => hopen ⟨hfd, hnot⟩
        obtain ⟨t₁, hread, hfreed⟩ := readClient_frees h hnodup hmem ha hhead hfd hempty
        apply GoesWrong.bind_right hread
        exact .inr ⟨a, bind_eq_error.mpr (.inl (Heap.load_of_free hfreed))⟩
      · refine .inl (bind_eq_error.mpr (.inl ?_))
        exact bind_eq_error.mpr (.inl (bind_eq_error.mpr (.inl (fdIndex_fails hfd))))

/-- Asking for the list is the same in both. -/
theorem getAppList_refines (h : IsThread t addrs s es) (p : Pass) :
    let o := (Program.getAppList p).run s
    ∃ t', t.getAppList p = (o.val, t') ∧ IsThread t' addrs o.state (es ++ o.effects) := by
  obtain ⟨hrun, hpasses, hclients⟩ :=
    getAppList_clients p t.context s.context.remoteClients s.passes
  rw [h.context] at hrun
  have hthread : (⟨s.context, s.passes⟩ : Thread) = s := rfl
  rw [hthread] at hrun
  intro o
  have ho : o = (Program.getAppList p).run s := rfl
  rw [ho, hrun, LinkedThread.getAppList, h.passes]
  refine ⟨_, rfl, ?_⟩
  exact {
    owns := h.owns
    sockets := h.sockets
    made := h.made
    context := rfl
    passes := h.passes
    effects := congrArg (· ++ _) h.effects }

end Reading

/-! ## One pass -/

/-- No descriptor is given that is open. -/
def GivesFresh (netlinkSocket multicastSocket : ℤ) (clients : List ℤ) (p : Pass) : Prop :=
  Opening.exited ∉ p.netlink → (clients ++ opened p.netlink).Nodup ∧
    netlinkSocket ∉ opened p.netlink ∧ multicastSocket ∉ opened p.netlink

/-- All that is watched or read has a bit, and no client is sent an empty datagram. -/
structure PassSafe (netlinkSocket multicastSocket : ℤ) (clients : List ℤ) (p : Pass) : Prop where
  sockets : InFdSet netlinkSocket ∧ InFdSet multicastSocket
  watched : ∀ fd ∈ clients, InFdSet fd
  read : Opening.exited ∉ p.netlink → ∀ fd ∈ clients ++ opened p.netlink, StaysOpen p clients fd

/-- A thread with one more pass begun. -/
theorem IsThread.begin {t : LinkedThread} {addrs : List ℕ} {s : Thread} {es : List UpnpEffect}
    (h : IsThread t addrs s es) :
    IsThread { t with passes := t.passes + 1 } addrs { s with passes := s.passes + 1 } es where
  owns := h.owns
  sockets := h.sockets
  made := h.made
  context := h.context
  passes := congrArg (· + 1) h.passes
  effects := h.effects

section Passing

variable {calloc : Heap RemoteClient → ℕ} (hcalloc : CallocFinds calloc) {t : LinkedThread}
  {addrs : List ℕ} {s : Thread} {es : List UpnpEffect} {netlinkSocket multicastSocket : ℤ}
  {world : ℕ → Pass}

/-- The sockets a pass watches, or why it does not come to read them. -/
theorem watch_spec (h : IsThread t addrs s es) (netlinkSocket multicastSocket : ℤ) :
    (InFdSet netlinkSocket ∧ InFdSet multicastSocket →
      (∀ fd ∈ s.context.remoteClients, InFdSet fd) → ∃ maxFd,
        (watchSockets netlinkSocket multicastSocket >>=
          watchClients t.clients.nodes t.turns t.clients.remoteClients) =
          .ok ⟨netlinkSocket :: multicastSocket :: s.context.remoteClients, maxFd⟩ ∧
        ∀ fd ∈ s.context.remoteClients, fd ≤ maxFd) ∧
    (¬ (InFdSet netlinkSocket ∧ InFdSet multicastSocket) ∨
      (∃ fd ∈ s.context.remoteClients, ¬ InFdSet fd) →
        GoesWrong (watchSockets netlinkSocket multicastSocket >>=
          watchClients t.clients.nodes t.turns t.clients.remoteClients)) := by
  by_cases hsockets : InFdSet netlinkSocket ∧ InFdSet multicastSocket
  · obtain ⟨maxFd, hwatch⟩ := watchSockets_eq hsockets.1 hsockets.2
    obtain ⟨hok, hfails⟩ := watchClients_spec h.owns.chain h.turns
      ⟨[netlinkSocket, multicastSocket], maxFd⟩
    rw [h.sockets] at hok hfails
    rw [hwatch]
    constructor
    · intro _ hall
      obtain ⟨maxFd', hrun, -, hmax⟩ := hok hall
      exact ⟨maxFd', hrun, hmax⟩
    · rintro (hnot | hexists)
      · exact absurd hsockets hnot
      · exact .inl (hfails hexists)
  · refine ⟨fun hboth => absurd hboth hsockets, fun _ => ?_⟩
    exact .inl (bind_eq_error.mpr (.inl (watchSockets_fails hsockets)))

/-- A pass of the thread with a list of clients. -/
theorem run_upnpPass (world : ℕ → Pass) (s : Thread) :
    let o := (openAll (world s.passes).netlink).run { s with passes := s.passes + 1 }
    let r := (Program.readClients (world s.passes) s.context.remoteClients
      o.state.context.remoteClients).run o.state
    (upnpPass world).run s =
      if o.val then
        ((Program.getAppList (world s.passes)).run r.state).after (o.effects ++ r.effects)
      else ⟨false, o.state, o.effects⟩ := by
  intro o r
  unfold upnpPass
  rw [run_gets_bind, run_bind_of (run_modify _ _), run_bind, id]
  show Outcome.after ⟨_, _, o.effects ++ _⟩ [] = _
  by_cases hval : o.val = true
  · rw [if_pos hval, if_pos hval, run_gets_bind, run_bind]
    simp [Outcome.after, o, r]
  · rw [if_neg hval, if_neg hval]
    simp [Outcome.after, o]

/-- A pass over the chain. -/
theorem linked_pass (calloc : Heap RemoteClient → ℕ) (t : LinkedThread) {p : Pass}
    (hp : world t.passes = p) :
    t.pass calloc netlinkSocket multicastSocket world =
      ((watchSockets netlinkSocket multicastSocket >>=
        watchClients t.clients.nodes t.turns t.clients.remoteClients) >>= fun w =>
      LinkedThread.openAll calloc { t with passes := t.passes + 1 } p.netlink >>= fun r =>
      if r.1 then
        LinkedThread.readClients p w r.2.turns r.2.clients.remoteClients r.2 >>= fun t =>
          pure (t.getAppList p)
      else pure (false, r.2)) := by
  rw [LinkedThread.pass, hp, bind_assoc]

include hcalloc

/-- **One pass.** -/
theorem pass_refines (h : IsThread t addrs s es) {p : Pass} (hp : world s.passes = p)
    (hfresh : GivesFresh netlinkSocket multicastSocket s.context.remoteClients p) :
    let o := (upnpPass world).run s
    (PassSafe netlinkSocket multicastSocket s.context.remoteClients p →
      ∃ t' addrs', t.pass calloc netlinkSocket multicastSocket world = .ok (o.val, t') ∧
        IsThread t' addrs' o.state (es ++ o.effects)) ∧
    (¬ PassSafe netlinkSocket multicastSocket s.context.remoteClients p →
      GoesWrong (t.pass calloc netlinkSocket multicastSocket world)) := by
  subst hp
  obtain ⟨hwatched, hunwatched⟩ := watch_spec h netlinkSocket multicastSocket
  rw [run_upnpPass, linked_pass calloc t (congrArg world h.passes)]
  by_cases hall : (InFdSet netlinkSocket ∧ InFdSet multicastSocket) ∧
      ∀ fd ∈ s.context.remoteClients, InFdSet fd
  · obtain ⟨maxFd, hwatch, hmax⟩ := hwatched hall.1 hall.2
    obtain ⟨t₁, addrs₁, hopen, h₁⟩ := openAll_refines hcalloc h.begin (world s.passes).netlink
    obtain ⟨hval, -, -, -, hclients⟩ :=
      openAll_spec (world s.passes).netlink { s with passes := s.passes + 1 }
    generalize (openAll (world s.passes).netlink).run { s with passes := s.passes + 1 } = o at *
    by_cases hexit : Opening.exited ∈ (world s.passes).netlink
    · have hfalse : o.val = false := by simpa [hexit] using hval
      rw [hfalse] at hopen ⊢
      refine ⟨fun _ => ⟨t₁, addrs₁, ?_, h₁⟩, fun hnot => absurd ?_ hnot⟩
      · exact bind_eq_ok.mpr ⟨_, hwatch, bind_eq_ok.mpr ⟨_, hopen, rfl⟩⟩
      · exact ⟨hall.1, hall.2, fun hno => absurd hexit hno⟩
    · have htrue : o.val = true := hval.mpr hexit
      obtain ⟨hnodup, hnetlink, hmulticast⟩ := hfresh hexit
      have hsockets := h₁.sockets.trans (hclients hexit)
      have hset : ∀ fd ∈ socketsAt t₁.clients addrs₁,
          (fd ∈ netlinkSocket :: multicastSocket :: s.context.remoteClients ∧ fd < maxFd + 1) ↔
            fd ∈ s.context.remoteClients := by
        intro fd hfd
        rw [hsockets] at hfd
        constructor
        · rintro ⟨hmem, -⟩
          rcases List.mem_append.mp hfd with hfd | hfd
          · exact hfd
          · have hne₁ : fd ≠ netlinkSocket := fun heq => hnetlink (heq ▸ hfd)
            have hne₂ : fd ≠ multicastSocket := fun heq => hmulticast (heq ▸ hfd)
            simpa [hne₁, hne₂] using hmem
        · intro hmem
          have hle := hmax fd hmem
          exact ⟨by simp [hmem], by omega⟩
      obtain ⟨hok, hfails⟩ := readClients_refines (world s.passes)
        ⟨netlinkSocket :: multicastSocket :: s.context.remoteClients, maxFd⟩ h₁
        (by rw [hclients hexit]; exact hnodup) (List.Subset.refl _) h₁.owns.chain h₁.turns hset
      rw [htrue] at hopen ⊢
      rw [hsockets] at hok hfails
      rw [hclients hexit]
      constructor
      · intro hsafe
        obtain ⟨t₂, hread, h₂⟩ := hok (hsafe.read hexit)
        obtain ⟨t₃, hlist, h₃⟩ := getAppList_refines h₂ (world s.passes)
        refine ⟨t₃, addrs₁, ?_, ?_⟩
        · refine bind_eq_ok.mpr ⟨_, hwatch, bind_eq_ok.mpr ⟨_, hopen, ?_⟩⟩
          exact bind_eq_ok.mpr ⟨_, hread, congrArg Except.ok hlist⟩
        · simpa [List.append_assoc] using h₃
      · intro hnot
        apply GoesWrong.bind_right hwatch
        apply GoesWrong.bind_right hopen
        apply GoesWrong.bind
        apply hfails
        by_contra hnone
        refine hnot ⟨hall.1, hall.2, fun _ fd hfd => ?_⟩
        by_contra hcloses
        exact hnone ⟨fd, hfd, hcloses⟩
  · constructor
    · intro hsafe
      exact absurd ⟨hsafe.sockets, hsafe.watched⟩ hall
    · intro _
      apply GoesWrong.bind
      apply hunwatched
      by_cases hsockets : InFdSet netlinkSocket ∧ InFdSet multicastSocket
      · right
        by_contra hnone
        refine hall ⟨hsockets, fun fd hfd => ?_⟩
        by_contra hnot
        exact hnone ⟨fd, hfd, hnot⟩
      · exact .inl hsockets

end Passing

/-! ## Runs -/

/-- One more pass of a thread that runs. -/
theorem runAfter_pass (interfaces : List Interface) (world : ℕ → Pass) (n : ℕ) :
    let r := runAfter interfaces world n
    let o := (upnpPass world).run r.state
    runAfter interfaces world (n + 1) =
      if r.running then ⟨o.state, r.effects ++ o.effects, o.val⟩ else r := by
  unfold runAfter
  by_cases hval : ((startup interfaces).run ⟨Context.zero, 0⟩).val = true
  · simp only [if_pos hval]
    by_cases hr : (rounds (upnpPass world) ((startup interfaces).run ⟨Context.zero, 0⟩).state
        n).running = true
    · rw [rounds_succ _ _ _ hr, if_pos hr, List.append_assoc]
    · have hstopped := eq_false_of_ne_true hr
      rw [rounds_succ_of_stopped _ _ _ hstopped, hstopped]
      rfl
  · simp only [if_neg hval]
    rfl

/-- A pass is counted. -/
theorem passes_upnpPass (world : ℕ → Pass) (s : Thread) :
    ((upnpPass world).run s).state.passes = s.passes + 1 := by
  obtain ⟨-, hopen, -⟩ := openAll_spec (world s.passes).netlink { s with passes := s.passes + 1 }
  rw [run_upnpPass]
  split
  · obtain ⟨hframe, -⟩ := readClients_spec (world s.passes) s.context.remoteClients _
      ((openAll (world s.passes).netlink).run { s with passes := s.passes + 1 }).state
    obtain ⟨-, hlist, -⟩ := getAppList_clients (world s.passes) _ [] _
    exact hlist.trans (hframe.passes.trans hopen)
  · exact hopen

/-- The passes of a thread that runs are counted. -/
theorem passes_runAfter (interfaces : List Interface) (world : ℕ → Pass) (n : ℕ)
    (h : (runAfter interfaces world n).running = true) :
    (runAfter interfaces world n).state.passes = n := by
  induction n with
  | zero =>
    have hexit : Opening.exited ∉ startupOpenings interfaces := by
      intro hexit
      rw [runAfter_of_exited _ _ _ hexit] at h
      cases h
    rw [runAfter_zero _ _ hexit]
    exact (startup_spec interfaces).2.2.1
  | succ n ih =>
    obtain ⟨hrunning, -, hnext⟩ := runAfter_succ interfaces world n h
    rw [hnext, passes_upnpPass, ih hrunning]

/-- In each of the first `n` passes that is begun. -/
def InEachPass (interfaces : List Interface) (world : ℕ → Pass) (n : ℕ)
    (P : List ℤ → Pass → Prop) : Prop :=
  ∀ i < n, (runAfter interfaces world i).running = true →
    P (runAfter interfaces world i).state.context.remoteClients (world i)

/-- What holds in each pass holds in the last one too. -/
theorem inEachPass_succ {interfaces : List Interface} {world : ℕ → Pass} {n : ℕ}
    {P : List ℤ → Pass → Prop} :
    InEachPass interfaces world (n + 1) P ↔ InEachPass interfaces world n P ∧
      ((runAfter interfaces world n).running = true →
        P (runAfter interfaces world n).state.context.remoteClients (world n)) := by
  constructor
  · intro h
    exact ⟨fun i hi => h i (Nat.lt_succ_of_lt hi), h n (Nat.lt_succ_self n)⟩
  · rintro ⟨hbefore, hlast⟩ i hi
    rcases Nat.lt_succ_iff_lt_or_eq.mp hi with hlt | rfl
    · exact hbefore i hlt
    · exact hlast

/-- At the start there are no clients. -/
theorem isThread_init : IsThread LinkedThread.init [] ⟨Context.zero, 0⟩ [] where
  owns := hasClients_empty
  sockets := rfl
  made := Nat.le_refl 0
  context := rfl
  passes := rfl
  effects := rfl

section Together

variable {calloc : Heap RemoteClient → ℕ} (hcalloc : CallocFinds calloc)
  {netlinkSocket multicastSocket : ℤ} {interfaces : List Interface} {world : ℕ → Pass} {n : ℕ}

/-- One more pass over the chain. -/
theorem linked_runAfter_succ (calloc : Heap RemoteClient → ℕ) :
    LinkedThread.runAfter calloc netlinkSocket multicastSocket interfaces world (n + 1) =
      (LinkedThread.runAfter calloc netlinkSocket multicastSocket interfaces world n >>= fun r =>
        if r.1 then r.2.pass calloc netlinkSocket multicastSocket world
        else pure (false, r.2)) := rfl

include hcalloc

/-- The sockets that are opened before the first pass. -/
theorem startup_refines (netlinkSocket multicastSocket : ℤ) (interfaces : List Interface)
    (world : ℕ → Pass) :
    let o := runAfter interfaces world 0
    ∃ t addrs, LinkedThread.runAfter calloc netlinkSocket multicastSocket interfaces world 0 =
      .ok (o.running, t) ∧ IsThread t addrs o.state o.effects := by
  obtain ⟨t, addrs, hopen, h⟩ :=
    openAll_refines hcalloc isThread_init (startupOpenings interfaces)
  have hzero : runAfter interfaces world 0 =
      ⟨((startup interfaces).run ⟨Context.zero, 0⟩).state,
        ((startup interfaces).run ⟨Context.zero, 0⟩).effects,
        ((startup interfaces).run ⟨Context.zero, 0⟩).val⟩ := by
    unfold runAfter
    dsimp only
    split
    next hval => simp [hval]
    next hval => simp [hval]
  rw [hzero]
  exact ⟨t, addrs, hopen, h⟩

/-- The pass after a run over the chain that has gone nowhere wrong. -/
theorem runAfter_succ_refines
    (hfresh : InEachPass interfaces world (n + 1) (GivesFresh netlinkSocket multicastSocket))
    {t : LinkedThread} {addrs : List ℕ}
    (hrun : LinkedThread.runAfter calloc netlinkSocket multicastSocket interfaces world n =
      .ok ((runAfter interfaces world n).running, t))
    (h : IsThread t addrs (runAfter interfaces world n).state
      (runAfter interfaces world n).effects) :
    let o := runAfter interfaces world (n + 1)
    let linked := LinkedThread.runAfter calloc netlinkSocket multicastSocket interfaces world
      (n + 1)
    let safe := (runAfter interfaces world n).running = true → PassSafe netlinkSocket
      multicastSocket (runAfter interfaces world n).state.context.remoteClients (world n)
    (safe → ∃ t' addrs', linked = .ok (o.running, t') ∧ IsThread t' addrs' o.state o.effects) ∧
      (¬ safe → GoesWrong linked) := by
  dsimp only
  rw [runAfter_pass, linked_runAfter_succ, hrun]
  cases hr : (runAfter interfaces world n).running with
  | false =>
    refine ⟨fun _ => ⟨t, addrs, ?_, h⟩, fun hnot => absurd nofun hnot⟩
    rw [if_neg (by simp), hr]
    rfl
  | true =>
    have hpasses := passes_runAfter interfaces world n hr
    obtain ⟨hgoes, hwrong⟩ :=
      pass_refines hcalloc h (congrArg world hpasses) ((inEachPass_succ.mp hfresh).2 hr)
    exact ⟨fun hsafe => hgoes (hsafe rfl), fun hnot => hwrong fun hthis => hnot fun _ => hthis⟩

/-- As long as all passes are safe, both threads do the same. -/
theorem runAfter_refines
    (hfresh : InEachPass interfaces world n (GivesFresh netlinkSocket multicastSocket))
    (hsafe : InEachPass interfaces world n (PassSafe netlinkSocket multicastSocket)) :
    let o := runAfter interfaces world n
    ∃ t addrs, LinkedThread.runAfter calloc netlinkSocket multicastSocket interfaces world n =
      .ok (o.running, t) ∧ IsThread t addrs o.state o.effects := by
  induction n with
  | zero => exact startup_refines hcalloc netlinkSocket multicastSocket interfaces world
  | succ n ih =>
    obtain ⟨hsafe, hlast⟩ := inEachPass_succ.mp hsafe
    obtain ⟨t, addrs, hrun, h⟩ := ih (inEachPass_succ.mp hfresh).1 hsafe
    exact (runAfter_succ_refines hcalloc hfresh hrun h).1 hlast

/-- After a pass that is not safe, the thread with its chain has gone wrong. -/
theorem runAfter_goesWrong
    (hfresh : InEachPass interfaces world n (GivesFresh netlinkSocket multicastSocket))
    (hnot : ¬ InEachPass interfaces world n (PassSafe netlinkSocket multicastSocket)) :
    GoesWrong (LinkedThread.runAfter calloc netlinkSocket multicastSocket interfaces world n) := by
  induction n with
  | zero => exact absurd (fun i hi => absurd hi (Nat.not_lt_zero i)) hnot
  | succ n ih =>
    have hbefore := (inEachPass_succ.mp hfresh).1
    by_cases hsafe : InEachPass interfaces world n (PassSafe netlinkSocket multicastSocket)
    · obtain ⟨t, addrs, hrun, h⟩ := runAfter_refines hcalloc hbefore hsafe
      refine (runAfter_succ_refines hcalloc hfresh hrun h).2 fun hlast => ?_
      exact hnot (inEachPass_succ.mpr ⟨hsafe, hlast⟩)
    · rw [linked_runAfter_succ]
      exact (ih hbefore hsafe).bind _

end Together

/-- **The thread with its chain does what the thread with a list does**, as long as every
descriptor has a bit and no client is sent an empty datagram, and otherwise uses a bit there is
not or a node it has freed. -/
theorem upnp_thread_refines {calloc : Heap RemoteClient → ℕ} (hcalloc : CallocFinds calloc)
    {netlinkSocket multicastSocket : ℤ} {interfaces : List Interface} {world : ℕ → Pass} {n : ℕ}
    (hfresh : InEachPass interfaces world n (GivesFresh netlinkSocket multicastSocket)) :
    let o := runAfter interfaces world n
    let linked := LinkedThread.runAfter calloc netlinkSocket multicastSocket interfaces world n
    (InEachPass interfaces world n (PassSafe netlinkSocket multicastSocket) →
      ∃ t addrs, linked = .ok (o.running, t) ∧ IsThread t addrs o.state o.effects) ∧
    (¬ InEachPass interfaces world n (PassSafe netlinkSocket multicastSocket) →
      GoesWrong linked) :=
  ⟨runAfter_refines hcalloc hfresh, runAfter_goesWrong hcalloc hfresh⟩

/-- The least address that is not allocated. -/
noncomputable def firstFree (h : Heap RemoteClient) : ℕ := sInf {a | h a = none}

/-- The first free cell is free. -/
theorem callocFinds_firstFree : CallocFinds firstFree := fun _ hexists => Nat.sInf_mem hexists

/-- A world in which the search socket is sent an empty datagram in the second pass. -/
def emptyDatagram : ℕ → Pass := fun i =>
  ⟨[], fun _ => if i = 1 then some .empty else none, fun _ => Block.zero 1025, .failed, true⟩

/-- A phone that sends an empty datagram, after which the next pass goes wrong. -/
theorem upnp_thread_refines_emptyDatagram :
    (∃ t addrs, LinkedThread.runAfter firstFree 3 4 silentPhone emptyDatagram 1 =
        .ok ((runAfter silentPhone emptyDatagram 1).running, t) ∧
      IsThread t addrs (runAfter silentPhone emptyDatagram 1).state
        (runAfter silentPhone emptyDatagram 1).effects) ∧
    GoesWrong (LinkedThread.runAfter firstFree 3 4 silentPhone emptyDatagram 2) := by
  have hclients : ∀ i < 2,
      (runAfter silentPhone emptyDatagram i).state.context.remoteClients = [5] := by
    decide +kernel
  have hfresh : InEachPass silentPhone emptyDatagram 2 (GivesFresh 3 4) := by
    intro i hi _ _
    rw [hclients i hi]
    simp [emptyDatagram, opened]
  have hsafe : PassSafe 3 4 [5] (emptyDatagram 0) := by
    refine ⟨by decide, by decide, fun _ fd hfd => ?_⟩
    rw [List.mem_singleton.mp hfd]
    exact ⟨by decide, by simp [emptyDatagram]⟩
  constructor
  · refine (upnp_thread_refines callocFinds_firstFree (inEachPass_succ.mp hfresh).1).1 ?_
    intro i hi _
    obtain rfl : i = 0 := Nat.lt_one_iff.mp hi
    rw [hclients 0 (by decide)]
    exact hsafe
  · refine (upnp_thread_refines callocFinds_firstFree hfresh).2 fun hall => ?_
    have hsecond := hall 1 (by decide) (by decide +kernel)
    rw [hclients 1 (by decide)] at hsecond
    obtain ⟨-, hopen⟩ := hsecond.read (by simp [emptyDatagram]) 5 (by simp)
    exact hopen ⟨by simp, by simp [emptyDatagram]⟩

end MirrorLink.Analysis
