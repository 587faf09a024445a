import MirrorLink.Program.RemoteClients
import MirrorLink.Analysis.PollPass

/-!
# The list of clients over any calls

`add_client` puts a node that is new behind the last one, and `remove_client` takes out the
first node with the socket.  So the chain that begins at `remoteClients` ends, comes to no
node twice and to every node that is allocated, and has the clients in the order they were
added in.
-/

set_option autoImplicit false

namespace MirrorLink.Analysis

open MirrorLink.Library MirrorLink.Program

/-! ## What the calls stand for -/

/-- The clients after a call. -/
def clientsAfterCall (clients : List RemoteClient) : ClientCall → List RemoteClient
  | .add _ sockFd groupAddr => clients ++ [⟨sockFd, groupAddr⟩]
  | .remove sockFd => clients.eraseP fun rc => rc.sockFd = sockFd

/-- The clients after some calls. -/
def clientsAfter (clientCalls : List ClientCall) : List RemoteClient :=
  clientCalls.foldl clientsAfterCall []

/-- The chain goes through all that is allocated, and has these clients. -/
structure HasClients (c : RemoteClients) (addrs : List ℕ) (clients : List RemoteClient) : Prop where
  nodup : addrs.Nodup
  chain : Chain c.nodes c.remoteClients addrs none
  values : c.nodes.values addrs = clients
  owned : ∀ a, c.nodes a ≠ none → a ∈ addrs

/-- The socket of the node at an address. -/
def sockAt (c : RemoteClients) (a : ℕ) : Option ℤ :=
  (c.nodes a).map fun cell => cell.value.sockFd

/-- What one call returns, and what it does to the nodes at `addrs`: a node is made behind
them, or the first one with the socket is closed and freed, or nothing is done. -/
def Answered (c : RemoteClients) (addrs : List ℕ) (c' : RemoteClients) (addrs' : List ℕ) :
    ClientCall → ClientResult → Prop
  | .add _ sockFd groupAddr, result => ∃ rc, result = .node rc ∧ c.nodes rc = none ∧
      c'.nodes rc = some ⟨⟨sockFd, groupAddr⟩, none⟩ ∧ addrs' = addrs ++ [rc] ∧
      c'.closed = c.closed ∧ c'.freed = c.freed
  | .remove sockFd, result =>
      (∃ front rc after, addrs = front ++ rc :: after ∧
        (∀ a ∈ front, sockAt c a ≠ some sockFd) ∧ sockAt c rc = some sockFd ∧
        result = .code 0 ∧ addrs' = front ++ after ∧ c'.closed = c.closed ++ [sockFd] ∧
        c'.freed = c.freed ++ [rc] ∧ c'.nodes rc = none) ∨
      ((∀ a ∈ addrs, sockAt c a ≠ some sockFd) ∧ result = .code (-1) ∧ c' = c ∧ addrs' = addrs)

/-- `calloc` returns what is not allocated, and not a null pointer. -/
def CallocGives (turns : ℕ) (clientCalls : List ClientCall) : Prop :=
  ∀ before calloc sockFd groupAddr after c,
    clientCalls = before ++ .add calloc sockFd groupAddr :: after →
    RemoteClients.empty.performAll turns before = .ok c →
    ∃ rc, calloc = some rc ∧ c.nodes rc = none

/-! ## Adding a client -/

/-- The loop of `add_client` stores the link in the last cell. -/
theorem linkLast_eq (c : RemoteClients) (rc : ℕ) {turns i last : ℕ} {front : List ℕ}
    {cell : Cell RemoteClient} (hlast : c.nodes last = some cell)
    (hchain : Chain c.nodes (some i) (front ++ [last]) none) (hturns : front.length < turns) :
    c.linkLast rc turns i =
      .ok { c with nodes := c.nodes.store last { cell with next := some rc } } := by
  induction front generalizing turns i with
  | nil =>
    obtain ⟨turns, rfl⟩ := Nat.exists_eq_succ_of_ne_zero (Nat.ne_of_gt hturns)
    rcases hchain with _ | ⟨hi, hrest⟩
    rename_i node
    obtain rfl : node = cell := Option.some.inj (hi.symm.trans hlast)
    have hend : node.next = none := by
      generalize hnext : node.next = p at hrest
      cases hrest
      rfl
    refine bind_eq_ok.mpr ⟨node, Heap.load_eq hi, ?_⟩
    rw [hend]
    rfl
  | cons a front ih =>
    obtain ⟨turns, rfl⟩ := Nat.exists_eq_succ_of_ne_zero
      (Nat.ne_of_gt (Nat.zero_lt_of_lt hturns))
    rcases hchain with _ | ⟨hi, hrest⟩
    rename_i node
    -- a cell follows, so the link is not null
    obtain ⟨next, hnext⟩ : ∃ next, node.next = some next := by
      generalize node.next = p at hrest
      cases front with
      | nil =>
        cases hrest
        exact ⟨_, rfl⟩
      | cons b front =>
        cases hrest
        exact ⟨_, rfl⟩
    rw [hnext] at hrest
    refine bind_eq_ok.mpr ⟨node, Heap.load_eq hi, ?_⟩
    rw [hnext]
    exact ih hrest (Nat.lt_of_succ_lt_succ hturns)

/-- The node that `add_client` makes is behind the last one, and the others keep their values. -/
theorem addClient_links {c : RemoteClients} {addrs : List ℕ} {turns rc : ℕ}
    (hnodup : addrs.Nodup) (hchain : Chain c.nodes c.remoteClients addrs none)
    (hturns : addrs.length < turns) (hrc : c.nodes rc = none) (sockFd : ℤ)
    (groupAddr : SockaddrIn) :
    ∃ c', c.addClient turns (some rc) sockFd groupAddr = .ok (rc, c') ∧
      Chain c'.nodes c'.remoteClients (addrs ++ [rc]) none ∧
      (∀ a, a ≠ rc → (c'.nodes a).map Cell.value = (c.nodes a).map Cell.value) ∧
      c'.nodes rc = some ⟨⟨sockFd, groupAddr⟩, none⟩ ∧ c'.closed = c.closed ∧
      c'.freed = c.freed := by
  have hne : ∀ a ∈ addrs, a ≠ rc := by
    rintro a ha rfl
    exact hchain.allocated a ha hrc
  -- the memory with the new node, which no link leads to yet
  let made : RemoteClients :=
    { c with nodes := c.nodes.store rc ⟨⟨sockFd, groupAddr⟩, none⟩ }
  have hnode : made.nodes rc = some ⟨⟨sockFd, groupAddr⟩, none⟩ := Heap.store_self _ _ _
  have hmade : Chain made.nodes c.remoteClients addrs none :=
    chain_congr (fun a ha => Heap.store_of_ne _ _ (hne a ha)) hchain
  have hothers : ∀ a, a ≠ rc → made.nodes a = c.nodes a := fun a ha => Heap.store_of_ne _ _ ha
  rcases List.eq_nil_or_concat addrs with rfl | ⟨front, last, rfl⟩
  · -- the list was empty
    have hempty : c.remoteClients = none := hchain.eq_head?
    refine ⟨{ made with remoteClients := some rc }, ?_, .cons hnode (.nil _), ?_, hnode, rfl, rfl⟩
    · rw [RemoteClients.addClient, hempty]
      rfl
    · exact fun a ha => congrArg _ (hothers a ha)
  · rw [List.concat_eq_append] at *
    obtain ⟨cell, hcell⟩ : ∃ cell, made.nodes last = some cell :=
      Option.ne_none_iff_exists'.mp (hmade.allocated last (by simp))
    obtain ⟨i, hi⟩ : ∃ i, c.remoteClients = some i := by
      cases front <;> exact ⟨_, hchain.eq_head?⟩
    have hlast : rc ≠ last := (hne last (by simp)).symm
    refine ⟨{ made with nodes := made.nodes.store last { cell with next := some rc } }, ?_, ?_,
      ?_, ?_, rfl, rfl⟩
    · rw [hi] at hmade
      have hlink := linkLast_eq made rc hcell hmade
        (Nat.lt_of_succ_lt (by simpa using hturns : front.length + 1 < turns))
      unfold RemoteClients.addClient
      dsimp only
      split
      next hnone => exact absurd (hnone.symm.trans hi) nofun
      next j hj =>
        obtain rfl : j = i := Option.some.inj (hj.symm.trans hi)
        exact bind_eq_ok.mpr ⟨_, hlink, rfl⟩
    · refine chain_append.mpr ⟨some rc, hmade.redirect hnodup hcell (some rc), ?_⟩
      exact .cons ((Heap.store_of_ne _ _ hlast).trans hnode) (.nil _)
    · intro a ha
      exact (Heap.store_next_value hcell _ a).trans (congrArg _ (hothers a ha))
    · exact (Heap.store_of_ne _ _ hlast).trans hnode

/-- **`add_client`.** -/
theorem addClient_spec {c : RemoteClients} {addrs : List ℕ} {clients : List RemoteClient}
    (h : HasClients c addrs clients) {turns rc : ℕ} (hturns : addrs.length < turns)
    (hrc : c.nodes rc = none) (sockFd : ℤ) (groupAddr : SockaddrIn) :
    ∃ c', c.addClient turns (some rc) sockFd groupAddr = .ok (rc, c') ∧
      HasClients c' (addrs ++ [rc]) (clients ++ [⟨sockFd, groupAddr⟩]) ∧
      c'.nodes rc = some ⟨⟨sockFd, groupAddr⟩, none⟩ ∧ c'.closed = c.closed ∧
      c'.freed = c.freed := by
  obtain ⟨c', hadd, hchain, hothers, hnode, hclosed, hfreed⟩ :=
    addClient_links h.nodup h.chain hturns hrc sockFd groupAddr
  have hne : ∀ a ∈ addrs, a ≠ rc := by
    rintro a ha rfl
    exact h.chain.allocated a ha hrc
  refine ⟨c', hadd, ⟨?_, hchain, ?_, ?_⟩, hnode, hclosed, hfreed⟩
  · exact List.nodup_append.mpr ⟨h.nodup, List.nodup_singleton rc, by simpa using hne⟩
  · rw [Heap.values_append, Heap.values_congr fun a ha => hothers a (hne a ha), h.values,
      Heap.values_cons hnode]
    rfl
  · intro a ha
    by_cases hac : a = rc
    · rw [hac]
      exact List.mem_append_right _ (List.mem_singleton_self _)
    · exact List.mem_append_left _ (h.owned a (Heap.allocated_of_value (hothers a hac) ha))

/-! ## Removing a client -/

/-- What `remove_client` does when it has found the node. -/
structure Freed (c : RemoteClients) (sockFd : ℤ) (rc : ℕ) (c' : RemoteClients) : Prop where
  found : sockAt c rc = some sockFd
  closed : c'.closed = c.closed ++ [sockFd]
  freed : c'.freed = c.freed ++ [rc]
  unallocated : c'.nodes rc = none
  others : ∀ a, a ≠ rc → (c'.nodes a).map Cell.value = (c.nodes a).map Cell.value

/-- The link that is stored is the one of the `ClientList`, and no value changes. -/
theorem unlink_of_clientList {c : RemoteClients} {last next : Option ℕ} {l : ClientList}
    (h : c.clientList.unlink last next = .ok l) :
    ∃ c', c.unlink last next = .ok c' ∧ c'.clientList = l ∧ c'.closed = c.closed ∧
      c'.freed = c.freed ∧
      ∀ a, (c'.nodes a).map Cell.value = (c.nodes a).map Cell.value := by
  cases last with
  | none =>
    cases h
    exact ⟨_, rfl, rfl, rfl, rfl, fun _ => rfl⟩
  | some last =>
    obtain ⟨node, hload, hstore⟩ := bind_eq_ok.mp h
    cases hstore
    obtain ⟨cell, hcell, rfl⟩ := Option.map_eq_some_iff.mp (Heap.load_eq_ok.mp hload)
    refine ⟨{ c with nodes := c.nodes.store last { cell with next := next } }, ?_, ?_, rfl, rfl,
      Heap.store_next_value hcell next⟩
    · exact bind_eq_ok.mpr ⟨cell, Heap.load_eq hcell, rfl⟩
    · exact congrArg (ClientList.mk c.remoteClients) (Heap.map_store _ _ _ _)

/-- `remove_client` does with the nodes what it does with those of the `ClientList`. -/
theorem removeFrom_of_clientList {c : RemoteClients} {sockFd code : ℤ} {l : ClientList}
    {turns : ℕ} {last i : Option ℕ}
    (h : c.clientList.removeFrom sockFd turns last i = .ok (code, l)) :
    ∃ c', c.removeFrom sockFd turns last i = .ok (code, c') ∧ c'.clientList = l ∧
      (code = -1 ∧ c' = c ∨ code = 0 ∧ ∃ rc, Freed c sockFd rc c') := by
  induction turns generalizing last i with
  | zero => cases h
  | succ turns ih =>
    cases i with
    | none =>
      cases h
      exact ⟨c, rfl, rfl, .inl ⟨rfl, rfl⟩⟩
    | some i =>
      obtain ⟨node, hload, h⟩ := bind_eq_ok.mp h
      obtain ⟨cell, hcell, rfl⟩ := Option.map_eq_some_iff.mp (Heap.load_eq_ok.mp hload)
      by_cases hfd : cell.value.sockFd = sockFd
      · rw [if_pos hfd] at h
        obtain ⟨l', hunlink, h⟩ := bind_eq_ok.mp h
        cases h
        obtain ⟨c', hc', rfl, hclosed, hfreed, hvalues⟩ := unlink_of_clientList hunlink
        -- the node is still there, with the same socket, when it is closed
        have hvalue := hvalues i
        rw [hcell, Option.map_some] at hvalue
        obtain ⟨cell', hcell', hsame⟩ := Option.map_eq_some_iff.mp hvalue
        refine ⟨{ c' with
            nodes := c'.nodes.free i
            closed := c'.closed ++ [cell'.value.sockFd]
            freed := c'.freed ++ [i] }, ?_, ?_, .inr ⟨rfl, i, ?_⟩⟩
        · refine bind_eq_ok.mpr ⟨cell, Heap.load_eq hcell, ?_⟩
          rw [if_pos hfd]
          refine bind_eq_ok.mpr ⟨c', hc', bind_eq_ok.mpr ⟨_, ?_, rfl⟩⟩
          exact bind_eq_ok.mpr ⟨cell', Heap.load_eq hcell', rfl⟩
        · exact congrArg (ClientList.mk c'.remoteClients) (Heap.map_free _ _ _)
        · refine ⟨?_, ?_, ?_, Heap.free_self _ _, ?_⟩
          · rw [sockAt, hcell, Option.map_some, hfd]
          · show c'.closed ++ [cell'.value.sockFd] = _
            rw [hclosed, hsame, hfd]
          · exact congrArg (· ++ [i]) hfreed
          · exact fun a ha => (congrArg _ (Heap.free_of_ne _ ha)).trans (hvalues a)
      · rw [if_neg hfd] at h
        obtain ⟨c', hc', hl, hcases⟩ := ih h
        refine ⟨c', bind_eq_ok.mpr ⟨cell, Heap.load_eq hcell, ?_⟩, hl, hcases⟩
        rw [if_neg hfd]
        exact hc'

/-- The walk of `remove_client` begins before the first client. -/
theorem removeClient_eq_removeFrom (c : RemoteClients) {turns : ℕ} (hturns : 0 < turns)
    (sockFd : ℤ) :
    c.removeClient turns sockFd = c.removeFrom sockFd turns none c.remoteClients := by
  obtain ⟨turns, rfl⟩ := Nat.exists_eq_succ_of_ne_zero (Nat.ne_of_gt hturns)
  unfold RemoteClients.removeClient
  split
  next hnone =>
    rw [hnone]
    rfl
  next => rfl

/-- The cells that are loaded have the sockets of the clients. -/
theorem value_clientList (c : RemoteClients) (a : ℕ) :
    (c.clientList.nodes a).map Cell.value = sockAt c a := by
  show ((c.nodes a).map _).map _ = _
  rw [Option.map_map]
  rfl

/-- The clients at some addresses have not the socket if the nodes have not. -/
theorem sockFd_ne_of_values {c : RemoteClients} {addrs : List ℕ} {sockFd : ℤ}
    (h : ∀ a ∈ addrs, sockAt c a ≠ some sockFd) :
    ∀ client ∈ c.nodes.values addrs, client.sockFd ≠ sockFd := by
  intro client hclient hfd
  obtain ⟨a, ha, hvalue⟩ := List.mem_filterMap.mp hclient
  obtain ⟨cell, hcell, rfl⟩ := Option.map_eq_some_iff.mp hvalue
  refine h a ha ?_
  rw [sockAt, hcell, Option.map_some, hfd]

/-- Freeing one node of the chain. -/
theorem HasClients.remove {c c' : RemoteClients} {front after : List ℕ} {rc : ℕ} {sockFd : ℤ}
    {clients : List RemoteClient} (h : HasClients c (front ++ rc :: after) clients)
    (hfirst : ∀ a ∈ front, sockAt c a ≠ some sockFd) (hfreed : Freed c sockFd rc c')
    (hlinked : Linked c'.clientList (front ++ after)) :
    HasClients c' (front ++ after) (clients.eraseP fun client => client.sockFd = sockFd) := by
  have hnotin : rc ∉ front ++ after := (List.nodup_cons.mp (List.nodup_middle.mp h.nodup)).1
  have hothers : ∀ a ∈ front ++ after,
      (c'.nodes a).map Cell.value = (c.nodes a).map Cell.value := by
    intro a ha
    refine hfreed.others a ?_
    rintro rfl
    exact hnotin ha
  obtain ⟨cell, hcell, hfd⟩ := Option.map_eq_some_iff.mp hfreed.found
  refine ⟨hlinked.nodup, chain_map.mp hlinked.chain, ?_, ?_⟩
  · have hfront := sockFd_ne_of_values hfirst
    rw [Heap.values_congr hothers, ← h.values, Heap.values_append, Heap.values_append,
      Heap.values_cons hcell, List.eraseP_append_right _ (by simpa using hfront),
      List.eraseP_cons_of_pos (by simpa using hfd)]
  · intro a ha
    have hne : a ≠ rc := by
      rintro rfl
      exact ha hfreed.unallocated
    have hmem := h.owned a (Heap.allocated_of_value (hfreed.others a hne) ha)
    simpa [hne] using hmem

/-- **`remove_client`.**  Its cases are those of the `ClientList`. -/
theorem removeClient_owns {c : RemoteClients} {addrs : List ℕ} {clients : List RemoteClient}
    (h : HasClients c addrs clients) {turns : ℕ} (hturns : addrs.length < turns) (sockFd : ℤ) :
    (c.removeClient turns sockFd = .ok (-1, c) ∧ ∀ a ∈ addrs, sockAt c a ≠ some sockFd) ∨
      ∃ front rc after c', addrs = front ++ rc :: after ∧
        c.removeClient turns sockFd = .ok (0, c') ∧
        (∀ a ∈ front, sockAt c a ≠ some sockFd) ∧ Freed c sockFd rc c' ∧
        HasClients c' (front ++ after) (clients.eraseP fun client => client.sockFd = sockFd) := by
  rw [removeClient_eq_removeFrom c (Nat.zero_lt_of_lt hturns)]
  have hlinked : Linked c.clientList addrs := ⟨h.nodup, chain_map.mpr h.chain⟩
  rcases removeSocket_spec hlinked sockFd hturns with
    ⟨hres, hnone⟩ | ⟨front, i, after, l', rfl, hres, hremoved⟩
  · left
    obtain ⟨c', hc', -, ⟨-, rfl⟩ | ⟨hcode, -⟩⟩ := removeFrom_of_clientList hres
    · refine ⟨hc', ?_⟩
      intro a ha
      rw [← value_clientList]
      exact hnone a ha
    · cases hcode
  · right
    obtain ⟨c', hc', rfl, ⟨hcode, -⟩ | ⟨-, rc, hfreed⟩⟩ := removeFrom_of_clientList hres
    · cases hcode
    -- the node that was freed is the one that was found
    have hi : i = rc := by
      by_contra hne
      have hgone : c'.nodes i = none := Heap.map_eq_none.mp hremoved.freed
      refine h.chain.allocated i (by simp) ?_
      have hvalue := hfreed.others i hne
      rw [hgone] at hvalue
      exact Option.map_eq_none_iff.mp hvalue.symm
    subst hi
    have hfirst : ∀ a ∈ front, sockAt c a ≠ some sockFd := by
      intro a ha
      rw [← value_clientList]
      exact hremoved.first a ha
    exact ⟨front, i, after, c', rfl, hc', hfirst, hfreed,
      h.remove hfirst hfreed hremoved.linked⟩

/-! ## All calls -/

/-- One call on clients that are owned. -/
theorem perform_spec {c : RemoteClients} {addrs : List ℕ} {clients : List RemoteClient}
    (h : HasClients c addrs clients) {turns : ℕ} (hturns : addrs.length < turns) {call : ClientCall}
    (hcalloc : ∀ calloc sockFd groupAddr, call = .add calloc sockFd groupAddr →
      ∃ rc, calloc = some rc ∧ c.nodes rc = none) :
    ∃ result c' addrs', c.perform turns call = .ok (result, c') ∧
      addrs'.length ≤ addrs.length + 1 ∧ HasClients c' addrs' (clientsAfterCall clients call) ∧
      Answered c addrs c' addrs' call result := by
  cases call with
  | add calloc sockFd groupAddr =>
    obtain ⟨rc, rfl, hrc⟩ := hcalloc calloc sockFd groupAddr rfl
    obtain ⟨c', hadd, howns, hnode, hclosed, hfreed⟩ :=
      addClient_spec h hturns hrc sockFd groupAddr
    refine ⟨.node rc, c', addrs ++ [rc], bind_eq_ok.mpr ⟨_, hadd, rfl⟩, ?_, howns, rc, rfl, hrc,
      hnode, rfl, hclosed, hfreed⟩
    rw [List.length_append, List.length_singleton]
  | remove sockFd =>
    rcases removeClient_owns h hturns sockFd with
      ⟨hres, hnone⟩ | ⟨front, rc, after, c', rfl, hres, hfirst, hfreed, howns⟩
    · refine ⟨.code (-1), c, addrs, bind_eq_ok.mpr ⟨_, hres, rfl⟩, Nat.le_succ _, ?_,
        .inr ⟨hnone, rfl, rfl, rfl⟩⟩
      have hclients := sockFd_ne_of_values hnone
      rw [h.values] at hclients
      have hsame : clientsAfterCall clients (.remove sockFd) = clients :=
        List.eraseP_of_forall_not (by simpa using hclients)
      rw [hsame]
      exact h
    · refine ⟨.code 0, c', front ++ after, bind_eq_ok.mpr ⟨_, hres, rfl⟩, ?_, howns,
        .inl ⟨front, rc, after, rfl, hfirst, hfreed.found, rfl, rfl, hfreed.closed,
          hfreed.freed, hfreed.unallocated⟩⟩
      rw [List.length_append, List.length_append, List.length_cons]
      omega

/-- At the start there are no clients. -/
theorem hasClients_empty : HasClients .empty [] [] :=
  ⟨List.nodup_nil, .nil _, rfl, fun _ ha => absurd rfl ha⟩

/-- The last call is made after the others. -/
theorem performAll_append (turns : ℕ) (c : RemoteClients) (before : List ClientCall)
    (call : ClientCall) :
    c.performAll turns (before ++ [call]) =
      (c.performAll turns before >>= fun c => Prod.snd <$> c.perform turns call) := by
  rw [RemoteClients.performAll, List.foldlM_append]
  simp [RemoteClients.performAll]

/-- What is said of `calloc` in all calls is said of it in the first of them. -/
theorem CallocGives.front {turns : ℕ} {before : List ClientCall} {call : ClientCall}
    (h : CallocGives turns (before ++ [call])) : CallocGives turns before := by
  rintro before' calloc sockFd groupAddr after c rfl hc
  exact h before' calloc sockFd groupAddr (after ++ [call]) c (by simp) hc

/-- What one more call does after a run. -/
theorem perform_after {turns : ℕ} {before : List ClientCall} {call : ClientCall}
    {c : RemoteClients} {addrs : List ℕ} (hlength : addrs.length < turns)
    (hcalloc : CallocGives turns (before ++ [call]))
    (hrun : RemoteClients.empty.performAll turns before = .ok c)
    (howns : HasClients c addrs (clientsAfter before)) :
    ∃ result c' addrs', c.perform turns call = .ok (result, c') ∧
      Answered c addrs c' addrs' call result ∧
      RemoteClients.empty.performAll turns (before ++ [call]) = .ok c' ∧
      addrs'.length ≤ addrs.length + 1 ∧
        HasClients c' addrs' (clientsAfter (before ++ [call])) := by
  have hfresh : ∀ calloc sockFd groupAddr, call = .add calloc sockFd groupAddr →
      ∃ rc, calloc = some rc ∧ c.nodes rc = none := by
    rintro calloc sockFd groupAddr rfl
    exact hcalloc before calloc sockFd groupAddr [] c rfl hrun
  obtain ⟨result, c', addrs', hperform, hlength', howns', hanswered⟩ :=
    perform_spec howns hlength hfresh
  refine ⟨result, c', addrs', hperform, hanswered, ?_, hlength', ?_⟩
  · rw [performAll_append]
    refine bind_eq_ok.mpr ⟨c, hrun, ?_⟩
    rw [hperform]
    rfl
  · rw [clientsAfter, List.foldl_append]
    exact howns'

/-- The clients of a run, by induction over the calls from the right. -/
theorem performAll_owns {turns : ℕ} {clientCalls : List ClientCall}
    (hturns : clientCalls.length < turns) (hcalloc : CallocGives turns clientCalls) :
    ∃ c addrs, RemoteClients.empty.performAll turns clientCalls = .ok c ∧
      addrs.length ≤ clientCalls.length ∧ HasClients c addrs (clientsAfter clientCalls) := by
  induction clientCalls using List.reverseRecOn with
  | nil => exact ⟨.empty, [], rfl, Nat.le_refl _, hasClients_empty⟩
  | append_singleton before call ih =>
    rw [List.length_append, List.length_singleton] at hturns
    obtain ⟨c, addrs, hrun, hlength, howns⟩ := ih (Nat.lt_of_succ_lt hturns) hcalloc.front
    obtain ⟨-, c', addrs', -, -, hrun', hlength', howns'⟩ :=
      perform_after (by omega) hcalloc hrun howns
    refine ⟨c', addrs', hrun', ?_, howns'⟩
    rw [List.length_append, List.length_singleton]
    omega

/-- **The list of clients.**  After any calls the chain owns the clients that were added and
not removed, and the next call returns what it should and does no more. -/
theorem client_operations {turns : ℕ} {before : List ClientCall} {call : ClientCall}
    (hturns : before.length + 1 < turns) (hcalloc : CallocGives turns (before ++ [call])) :
    ∃ c addrs result c' addrs',
      RemoteClients.empty.performAll turns before = .ok c ∧
      HasClients c addrs (clientsAfter before) ∧
      c.perform turns call = .ok (result, c') ∧
      Answered c addrs c' addrs' call result ∧
      RemoteClients.empty.performAll turns (before ++ [call]) = .ok c' ∧
      HasClients c' addrs' (clientsAfter (before ++ [call])) := by
  obtain ⟨c, addrs, hrun, hlength, howns⟩ :=
    performAll_owns (Nat.lt_of_succ_lt hturns) hcalloc.front
  obtain ⟨result, c', addrs', hperform, hanswered, hrun', -, howns'⟩ :=
    perform_after (by omega) hcalloc hrun howns
  exact ⟨c, addrs, result, c', addrs', hrun, howns, hperform, hanswered, hrun', howns'⟩

/-- Two clients with one socket. -/
def twins : List ClientCall :=
  [.add (some 7) 3 ⟨2, 0, ⟨0, 0, 0, 0⟩⟩, .add (some 9) 3 ⟨2, 0, ⟨0, 0, 0, 0⟩⟩]

/-- Two clients of one descriptor, of which the first is removed. -/
theorem client_operations_of_twins :
    ∃ c addrs result c' addrs',
      RemoteClients.empty.performAll 4 twins = .ok c ∧ HasClients c addrs (clientsAfter twins) ∧
      c.perform 4 (.remove 3) = .ok (result, c') ∧
      Answered c addrs c' addrs' (.remove 3) result ∧
      RemoteClients.empty.performAll 4 (twins ++ [.remove 3]) = .ok c' ∧
      HasClients c' addrs' (clientsAfter (twins ++ [.remove 3])) := by
  refine client_operations (by decide) ?_
  intro before calloc sockFd groupAddr after c hcalls hrun
  rcases before with _ | ⟨_, _ | ⟨_, _ | ⟨_, before⟩⟩⟩
  · cases hcalls
    cases hrun
    exact ⟨7, rfl, rfl⟩
  · cases hcalls
    cases hrun
    exact ⟨9, rfl, rfl⟩
  · cases hcalls
  · have hlength := congrArg List.length hcalls
    simp [twins] at hlength

end MirrorLink.Analysis
