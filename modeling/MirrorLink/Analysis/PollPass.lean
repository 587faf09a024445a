import MirrorLink.Program.Poll

/-!
# One pass over the clients

As long as no read returns 0 the loop leaves the chain alone and comes to every node once.
The first read that returns 0 frees a node: the one the loop stands at, whose link it reads
next, or another one with the same socket, which should have stayed.
`poll_pass_iff` puts both together.
-/

set_option autoImplicit false

namespace MirrorLink.Analysis

open MirrorLink.Library MirrorLink.Program

/-- The clients, each at its own address. -/
structure Linked (l : ClientList) (addrs : List ℕ) : Prop where
  nodup : addrs.Nodup
  chain : Chain l.nodes l.remoteClients addrs none

/-- The client is ready and its read returns 0. -/
def ReturnsZero : Option Receipt → Prop
  | some .empty => True
  | _ => False

instance : DecidablePred ReturnsZero
  | some .empty => isTrue trivial
  | some (.data _) => isFalse id
  | some .failed => isFalse id
  | none => isFalse id

/-- A read returns zero if and only if the datagram is empty. -/
theorem returnsZero_iff (receipt : Option Receipt) :
    ReturnsZero receipt ↔ receipt = some .empty := by
  rcases receipt with _ | _ | _ | _ <;> simp [ReturnsZero]

/-- What a pass should do with the clients at `addrs`: come to no node twice, handle every
ready client exactly once, and keep those whose read did not return 0, in order. -/
structure Polled (reads : ℕ → Option Receipt) (l : ClientList) (addrs : List ℕ) (p : Poll) :
    Prop where
  visited : p.visited.Nodup
  handled : p.handled.Perm (addrs.filter fun a => (reads a).isSome)
  clients : Linked p.clients (addrs.filter fun a => ¬ ReturnsZero (reads a))
  sockets : ∀ a ∈ addrs, ¬ ReturnsZero (reads a) →
    (p.clients.nodes a).map Cell.value = (l.nodes a).map Cell.value

/-! ## Removing a client -/

/-- A client is taken out of the chain, and the others are as they were. -/
theorem unlink_spec (l : ClientList) (before : List ℕ) (i : ℕ) (next : Option ℕ)
    (hnodup : before.Nodup)
    (hbefore : Chain l.nodes l.remoteClients before (some i)) :
    ∃ l', l.unlink before.getLast? next = .ok l' ∧
      Chain l'.nodes l'.remoteClients before next ∧
      (∀ a ∉ before, l'.nodes a = l.nodes a) ∧
      ∀ a, (l'.nodes a).map Cell.value = (l.nodes a).map Cell.value := by
  rcases List.eq_nil_or_concat before with rfl | ⟨front, last, rfl⟩
  · exact ⟨{ l with remoteClients := next }, rfl, .nil next, fun _ _ => rfl, fun _ => rfl⟩
  · rw [List.concat_eq_append] at hnodup hbefore ⊢
    obtain ⟨node, hnode⟩ : ∃ node, l.nodes last = some node :=
      Option.ne_none_iff_exists'.mp (hbefore.allocated last (by simp))
    refine ⟨{ l with nodes := l.nodes.store last { node with next := next } }, ?_,
      hbefore.redirect hnodup hnode next, ?_, ?_⟩
    · rw [List.getLast?_concat, ClientList.unlink]
      exact bind_eq_ok.mpr ⟨node, Heap.load_eq hnode, rfl⟩
    · intro a ha
      apply Heap.store_of_ne
      rintro rfl
      simp at ha
    · intro a
      by_cases ha : a = last
      · rw [ha, hnode]
        show (l.nodes.store last _ last).map _ = _
        rw [Heap.store_self]
        rfl
      · exact congrArg _ (Heap.store_of_ne _ _ ha)

/-- How `remove_client` ends: the first client with the socket is taken out and freed. -/
structure Removed (l : ClientList) (sockFd : ℤ) (before : List ℕ) (i : ℕ) (after : List ℕ)
    (l' : ClientList) : Prop where
  first : ∀ a ∈ before, (l.nodes a).map Cell.value ≠ some sockFd
  found : (l.nodes i).map Cell.value = some sockFd
  linked : Linked l' (before ++ after)
  freed : l'.nodes i = none
  sockets : ∀ a, a ≠ i → (l'.nodes a).map Cell.value = (l.nodes a).map Cell.value

/-- Taking out the node the loop has come to. -/
theorem removed_of_found {l : ClientList} {sockFd : ℤ} {before after : List ℕ} {i : ℕ}
    {node : Cell ℤ} (hnodup : (before ++ i :: after).Nodup)
    (hbefore : Chain l.nodes l.remoteClients before (some i)) (hi : l.nodes i = some node)
    (hafter : Chain l.nodes node.next after none)
    (hpassed : ∀ a ∈ before, (l.nodes a).map Cell.value ≠ some sockFd)
    (hfd : node.value = sockFd) :
    ∃ l', l.unlink before.getLast? node.next = .ok l' ∧
      Removed l sockFd before i after { l' with nodes := l'.nodes.free i } := by
  obtain ⟨hbn, han, hdisjoint⟩ := List.nodup_append.mp hnodup
  have hbefore' : ∀ b ∈ before, b ≠ i := by
    intro b hb
    exact hdisjoint b hb i List.mem_cons_self
  have hafter' : ∀ b ∈ after, b ≠ i ∧ b ∉ before := by
    intro b hb
    refine ⟨?_, ?_⟩
    · rintro rfl
      exact (List.nodup_cons.mp han).1 hb
    · intro hb'
      exact hdisjoint b hb' b (List.mem_cons_of_mem _ hb) rfl
  obtain ⟨l', hunlink, hchain, hsame, hvalues⟩ := unlink_spec l before i node.next hbn hbefore
  refine ⟨l', hunlink, hpassed, by rw [hi, Option.map_some, hfd], ⟨?_, ?_⟩, Heap.free_self _ _, ?_⟩
  · exact hnodup.sublist ((List.sublist_cons_self i after).append_left before)
  · refine chain_append.mpr ⟨node.next, chain_congr ?_ hchain, chain_congr ?_ hafter⟩
    · intro b hb
      exact Heap.free_of_ne _ (hbefore' b hb)
    · intro b hb
      exact (Heap.free_of_ne _ (hafter' b hb).1).trans (hsame b (hafter' b hb).2)
  · intro b hb
    exact (congrArg _ (Heap.free_of_ne _ hb)).trans (hvalues b)

/-- **`remove_client`.**  The induction is over the nodes still to come, with those the loop
has passed in `before`. -/
theorem removeFrom_spec (l : ClientList) (sockFd : ℤ) (turns : ℕ) (before addrs : List ℕ)
    (p : Option ℕ) (hnodup : (before ++ addrs).Nodup)
    (hbefore : Chain l.nodes l.remoteClients before p) (haddrs : Chain l.nodes p addrs none)
    (hpassed : ∀ a ∈ before, (l.nodes a).map Cell.value ≠ some sockFd)
    (hturns : addrs.length < turns) :
    (l.removeFrom sockFd turns before.getLast? p = .ok (-1, l) ∧
        ∀ a ∈ addrs, (l.nodes a).map Cell.value ≠ some sockFd) ∨
      ∃ front i after l', addrs = front ++ i :: after ∧
        l.removeFrom sockFd turns before.getLast? p = .ok (0, l') ∧
          Removed l sockFd (before ++ front) i after l' := by
  induction addrs generalizing turns before p with
  | nil =>
    obtain ⟨turns, rfl⟩ := Nat.exists_eq_succ_of_ne_zero (Nat.ne_of_gt hturns)
    cases haddrs
    exact .inl ⟨rfl, fun a ha => absurd ha List.not_mem_nil⟩
  | cons a addrs ih =>
    obtain ⟨turns, rfl⟩ := Nat.exists_eq_succ_of_ne_zero (Nat.ne_of_gt (Nat.zero_lt_of_lt hturns))
    rcases haddrs with _ | ⟨ha, hrest⟩
    rename_i node
    rw [ClientList.removeFrom]
    by_cases hfd : node.value = sockFd
    · -- the loop ends here
      obtain ⟨l', hunlink, hremoved⟩ := removed_of_found hnodup hbefore ha hrest hpassed hfd
      refine .inr ⟨[], a, addrs, { l' with nodes := l'.nodes.free a }, rfl, ?_, ?_⟩
      · refine bind_eq_ok.mpr ⟨node, Heap.load_eq ha, ?_⟩
        rw [if_pos hfd]
        exact bind_eq_ok.mpr ⟨l', hunlink, rfl⟩
      · rw [List.append_nil]
        exact hremoved
    · -- the loop goes on with `a` behind it
      have hstep : Chain l.nodes l.remoteClients (before ++ [a]) node.next :=
        chain_append.mpr ⟨some a, hbefore, .cons ha (.nil _)⟩
      have hne : (l.nodes a).map Cell.value ≠ some sockFd := by
        rw [ha, Option.map_some]
        exact fun h => hfd (Option.some.inj h)
      have hpassed' : ∀ b ∈ before ++ [a], (l.nodes b).map Cell.value ≠ some sockFd := by
        intro b hb
        rcases List.mem_append.mp hb with hb | hb
        · exact hpassed b hb
        · rw [List.mem_singleton.mp hb]
          exact hne
      have hload : (l.nodes.load a >>= fun node =>
          if node.value = sockFd then do
            let l ← l.unlink before.getLast? node.next
            pure ((0 : ℤ), { l with nodes := l.nodes.free a })
          else l.removeFrom sockFd turns (some a) node.next) =
          l.removeFrom sockFd turns (before ++ [a]).getLast? node.next := by
        rw [Heap.load_eq ha, List.getLast?_concat]
        exact if_neg hfd
      rw [hload]
      rcases ih turns (before ++ [a]) node.next (by simpa using hnodup) hstep hrest hpassed'
        (by simpa using hturns) with ⟨hres, hnone⟩ | ⟨front, i, after, l', rfl, hres, hremoved⟩
      · refine .inl ⟨hres, ?_⟩
        intro b hb
        rcases List.mem_cons.mp hb with rfl | hb
        · exact hne
        · exact hnone b hb
      · refine .inr ⟨a :: front, i, after, l', rfl, hres, ?_⟩
        rw [List.append_assoc] at hremoved
        exact hremoved

/-- **The first client of a descriptor is removed**, or there was none. -/
theorem removeSocket_spec {l : ClientList} {addrs : List ℕ} (h : Linked l addrs) (sockFd : ℤ)
    {turns : ℕ} (hturns : addrs.length < turns) :
    (l.removeSocket turns sockFd = .ok (-1, l) ∧
        ∀ a ∈ addrs, (l.nodes a).map Cell.value ≠ some sockFd) ∨
      ∃ front i after l', addrs = front ++ i :: after ∧
        l.removeSocket turns sockFd = .ok (0, l') ∧ Removed l sockFd front i after l' :=
  removeFrom_spec l sockFd turns [] addrs l.remoteClients h.nodup (.nil _) h.chain
    (fun _ ha => absurd ha List.not_mem_nil) hturns

/-- The sockets of the clients at `addrs`. -/
def sockFds (l : ClientList) (addrs : List ℕ) : List ℤ :=
  addrs.filterMap fun a => (l.nodes a).map Cell.value

/-- The nodes after `remove_client` stand for the clients of `Context.eraseClient`. -/
theorem removeSocket_erase {l : ClientList} {addrs : List ℕ} (h : Linked l addrs) (sockFd : ℤ)
    {turns : ℕ} (hturns : addrs.length < turns) :
    ∃ code l' addrs', l.removeSocket turns sockFd = .ok (code, l') ∧ Linked l' addrs' ∧
      sockFds l' addrs' = (sockFds l addrs).erase sockFd := by
  rcases removeSocket_spec h sockFd hturns with
    ⟨hres, hnone⟩ | ⟨front, i, after, l', rfl, hres, hremoved⟩
  · refine ⟨_, _, addrs, hres, h, (List.erase_of_not_mem ?_).symm⟩
    rw [sockFds, List.mem_filterMap]
    rintro ⟨a, ha, hfd⟩
    exact hnone a ha hfd
  · refine ⟨_, _, _, hres, hremoved.linked, ?_⟩
    have hfront : sockFd ∉ sockFds l front := by
      rw [sockFds, List.mem_filterMap]
      rintro ⟨a, ha, hfd⟩
      exact hremoved.first a ha hfd
    have hne : ∀ a ∈ front ++ after, a ≠ i := by
      intro a ha hai
      have hnodup := List.nodup_middle.mp h.nodup
      exact (List.nodup_cons.mp hnodup).1 (hai ▸ ha)
    have hcons : sockFds l (i :: after) = sockFd :: sockFds l after :=
      List.filterMap_cons_some hremoved.found
    calc sockFds l' (front ++ after)
        = sockFds l (front ++ after) :=
          List.filterMap_congr fun a ha => hremoved.sockets a (hne a ha)
      _ = sockFds l front ++ sockFds l after := List.filterMap_append
      _ = (sockFds l front ++ sockFd :: sockFds l after).erase sockFd := by
          rw [List.erase_append_right _ hfront, List.erase_cons_head]
      _ = (sockFds l (front ++ i :: after)).erase sockFd := by
          rw [← hcons]
          exact congrArg (List.erase · sockFd) List.filterMap_append.symm

/-! ## Nothing is allocated again -/

/-- Taking a client out allocates nothing. -/
theorem shrinks_unlink {l l' : ClientList} {last next : Option ℕ}
    (h : l.unlink last next = .ok l') : l.nodes.Shrinks l'.nodes := by
  cases last with
  | none =>
    cases h
    exact Heap.Shrinks.refl _
  | some last =>
    obtain ⟨node, hload, hstore⟩ := bind_eq_ok.mp h
    cases hstore
    exact Heap.shrinks_store _ (Heap.load_eq_ok.mp hload)

/-- Nor does removing one. -/
theorem shrinks_removeFrom {l l' : ClientList} {sockFd code : ℤ} {turns : ℕ}
    {last i : Option ℕ} (h : l.removeFrom sockFd turns last i = .ok (code, l')) :
    l.nodes.Shrinks l'.nodes := by
  induction turns generalizing last i with
  | zero => cases h
  | succ turns ih =>
    cases i with
    | none =>
      cases h
      exact Heap.Shrinks.refl _
    | some i =>
      obtain ⟨node, -, h⟩ := bind_eq_ok.mp h
      by_cases hfd : node.value = sockFd
      · rw [if_pos hfd] at h
        obtain ⟨l'', hunlink, h⟩ := bind_eq_ok.mp h
        cases h
        exact (shrinks_unlink hunlink).trans (Heap.shrinks_free _ _)
      · rw [if_neg hfd] at h
        exact ih h

/-- Nor does a turn of the poll. -/
theorem shrinks_pollClient {turns rc : ℕ} {node : Cell ℤ} {p p' : Poll}
    {receipt : Option Receipt} (h : pollClient turns rc node p receipt = .ok p') :
    p.clients.nodes.Shrinks p'.clients.nodes := by
  rcases receipt with _ | _ | _ | _
  · cases h
    exact Heap.Shrinks.refl _
  · cases h
    exact Heap.Shrinks.refl _
  · obtain ⟨⟨code, clients⟩, hremove, h⟩ := bind_eq_ok.mp h
    cases h
    exact shrinks_removeFrom hremove
  · cases h
    exact Heap.Shrinks.refl _

/-- What one turn of the loop has done when the loop ends without a fault. -/
theorem pollFrom_succ {turns left rc : ℕ} {reads : ℕ → Option Receipt} {p p' : Poll} :
    pollFrom turns reads (left + 1) (some rc) p = .ok p' ↔
      ∃ node q node', p.clients.nodes rc = some node ∧
        pollClient turns rc node { p with visited := p.visited ++ [rc] } (reads rc) = .ok q ∧
          q.clients.nodes rc = some node' ∧ pollFrom turns reads left node'.next q = .ok p' := by
  rw [pollFrom, bind_eq_ok]
  simp only [bind_eq_ok, Heap.load_eq_ok]
  constructor
  · rintro ⟨node, hnode, q, hq, node', hnode', h⟩
    exact ⟨node, q, node', hnode, hq, hnode', h⟩
  · rintro ⟨node, q, node', hnode, hq, hnode', h⟩
    exact ⟨node, hnode, q, hq, node', hnode', h⟩

/-- Nor does the whole poll. -/
theorem shrinks_pollFrom {turns left : ℕ} {reads : ℕ → Option Receipt} {rc : Option ℕ}
    {p p' : Poll} (h : pollFrom turns reads left rc p = .ok p') :
    p.clients.nodes.Shrinks p'.clients.nodes := by
  induction left generalizing rc p with
  | zero => cases h
  | succ left ih =>
    cases rc with
    | none =>
      cases h
      exact Heap.Shrinks.refl _
    | some rc =>
      obtain ⟨node, q, node', -, hq, -, hrest⟩ := pollFrom_succ.mp h
      exact (shrinks_pollClient hq).trans (ih hrest)

/-! ## Passes -/

/-- Clients whose reads do not return 0 are visited and handled, and stay. -/
theorem pollFrom_quiet {turns left : ℕ} {reads : ℕ → Option Receipt} {rc q : Option ℕ}
    {addrs : List ℕ} {p : Poll} (hchain : Chain p.clients.nodes rc addrs q)
    (hquiet : ∀ a ∈ addrs, ¬ ReturnsZero (reads a)) :
    pollFrom turns reads (addrs.length + left) rc p =
      pollFrom turns reads left q ⟨p.clients, p.visited ++ addrs,
        p.handled ++ addrs.filter fun a => (reads a).isSome⟩ := by
  induction addrs generalizing rc p with
  | nil =>
    cases hchain
    simp
  | cons a addrs ih =>
    cases hchain with
    | cons ha hrest =>
    rename_i node
    have ha0 := hquiet a List.mem_cons_self
    have hquiet' : ∀ b ∈ addrs, ¬ ReturnsZero (reads b) := by
      intro b hb
      exact hquiet b (List.mem_cons_of_mem _ hb)
    have hclient : pollClient turns a node { p with visited := p.visited ++ [a] } (reads a) =
        .ok ⟨p.clients, p.visited ++ [a],
          p.handled ++ [a].filter fun a => (reads a).isSome⟩ := by
      rcases hreads : reads a with _ | _ | _ | _
      · simp [pollClient, hreads]
        rfl
      · simp [pollClient, hreads]
        rfl
      · rw [hreads] at ha0
        exact absurd trivial ha0
      · simp [pollClient, hreads]
        rfl
    rw [List.length_cons, Nat.add_right_comm, pollFrom, Heap.load_eq ha]
    show (pollClient turns a node { p with visited := p.visited ++ [a] } (reads a) >>= _) = _
    rw [hclient]
    show (p.clients.nodes.load a >>= _) = _
    rw [Heap.load_eq ha]
    show pollFrom turns reads (addrs.length + left) node.next _ = _
    rw [ih (p := ⟨p.clients, p.visited ++ [a], _⟩) hrest hquiet', List.append_assoc,
      List.append_assoc, ← List.filter_append]
    rfl

/-- Without a read that returns 0 the pass does what it should. -/
theorem polled_of_quiet {reads : ℕ → Option Receipt} {l : ClientList} {addrs : List ℕ}
    (h : Linked l addrs) (hquiet : ∀ a ∈ addrs, ¬ ReturnsZero (reads a)) {turns : ℕ}
    (hturns : addrs.length < turns) :
    ∃ p, pollClients turns reads l = .ok p ∧ Polled reads l addrs p := by
  obtain ⟨left, rfl⟩ := Nat.exists_eq_add_of_lt hturns
  refine ⟨⟨l, [] ++ addrs, [] ++ addrs.filter fun a => (reads a).isSome⟩, ?_, ?_⟩
  · rw [pollClients, Nat.add_assoc, pollFrom_quiet h.chain hquiet]
    rfl
  · have hall : addrs.filter (fun a => ¬ ReturnsZero (reads a)) = addrs := by
      rw [List.filter_eq_self]
      intro a ha
      exact decide_eq_true (hquiet a ha)
    refine ⟨h.nodup, List.Perm.refl _, ?_, fun _ _ _ => rfl⟩
    rw [hall]
    exact h

/-- Of two members of a list, the one found first stands before the other. -/
theorem mem_of_splits {before after front back : List ℕ} {a i : ℕ}
    (hsplit : before ++ a :: after = front ++ i :: back) (hne : a ≠ i) (hfront : a ∉ front) :
    i ∈ before := by
  rcases List.append_eq_append_iff.mp hsplit with ⟨cs, hfronteq, hcs⟩ | ⟨cs, hbeforeeq, hcs⟩
  · cases cs with
    | nil =>
      cases hcs
      exact absurd rfl hne
    | cons c cs =>
      cases hcs
      exact absurd (hfronteq ▸ List.mem_append_right before List.mem_cons_self) hfront
  · cases cs with
    | nil =>
      cases hcs
      exact absurd rfl hne
    | cons c cs =>
      cases hcs
      exact hbeforeeq ▸ List.mem_append_right front List.mem_cons_self

/-- The first read that returns 0 spoils the pass. -/
theorem not_polled_of_returnsZero {reads : ℕ → Option Receipt} {l : ClientList}
    {before after : List ℕ} {a : ℕ} (h : Linked l (before ++ a :: after))
    (hquiet : ∀ b ∈ before, ¬ ReturnsZero (reads b)) (hzero : ReturnsZero (reads a)) {turns : ℕ}
    (hturns : (before ++ a :: after).length < turns) {p : Poll}
    (hp : pollClients turns reads l = .ok p) : ¬ Polled reads l (before ++ a :: after) p := by
  intro hpolled
  obtain ⟨r, hbefore, hrest⟩ := chain_append.mp h.chain
  cases hrest with
  | cons ha hafter =>
  rename_i node
  obtain ⟨left, hleft⟩ : ∃ left, turns = before.length + (left + 1) := by
    rw [List.length_append, List.length_cons] at hturns
    exact ⟨turns - before.length - 1, by omega⟩
  rw [pollClients] at hp
  nth_rewrite 2 [hleft] at hp
  rw [pollFrom_quiet hbefore hquiet] at hp
  obtain ⟨node', q, stale, hnode', hq, hstale, hlater⟩ := pollFrom_succ.mp hp
  rw [ha, Option.some.injEq] at hnode'
  rw [(returnsZero_iff _).mp hzero, ← hnode'] at hq
  obtain ⟨⟨code, l'⟩, hremove, hq⟩ := bind_eq_ok.mp hq
  cases hq
  rcases removeSocket_spec h node.value hturns with
    ⟨-, hnone⟩ | ⟨front, i, back, l'', hsplit, hres, hremoved⟩
  · exact hnone a (by simp) (by rw [ha, Option.map_some])
  · change l.removeSocket turns node.value = _ at hremove
    rw [hres] at hremove
    cases hremove
    -- the node that was freed is not allocated again
    have hgone : p.clients.nodes i = none := shrinks_pollFrom hlater i hremoved.freed
    have hane : a ≠ i := by
      rintro rfl
      exact Option.some_ne_none _ (hstale.symm.trans hremoved.freed)
    have hfront : a ∉ front := by
      intro hmem
      exact hremoved.first a hmem (by rw [ha, Option.map_some])
    have hi : i ∈ before := mem_of_splits hsplit hane hfront
    have hkept : i ∈ (before ++ a :: after).filter fun b => ¬ ReturnsZero (reads b) := by
      rw [List.mem_filter]
      exact ⟨List.mem_append_left _ hi, decide_eq_true (hquiet i hi)⟩
    exact hpolled.clients.chain.allocated i hkept hgone

/-- **One pass over the clients.**  It ends, and does what it should, exactly if no read of a
ready client returns 0. -/
theorem poll_pass_iff (reads : ℕ → Option Receipt) (l : ClientList) (addrs : List ℕ)
    (h : Linked l addrs) :
    (∀ turns, addrs.length < turns →
        ∃ p, pollClients turns reads l = .ok p ∧ Polled reads l addrs p) ↔
      ∀ a ∈ addrs, ¬ ReturnsZero (reads a) := by
  constructor
  · intro hpass
    by_contra hzero
    push Not at hzero
    obtain ⟨a, ha, hza⟩ := hzero
    obtain ⟨p, hp, hpolled⟩ := hpass _ (Nat.lt_succ_self _)
    rcases hfind : addrs.find? fun a => ReturnsZero (reads a) with _ | found
    · exact (List.find?_eq_none.mp hfind) a ha (decide_eq_true hza)
    · obtain ⟨hfound, before, after, hsplit, hbefore⟩ := List.find?_eq_some_iff_append.mp hfind
      subst hsplit
      refine not_polled_of_returnsZero h ?_ (of_decide_eq_true hfound) (Nat.lt_succ_self _) hp
        hpolled
      intro b hb
      simpa using hbefore b hb
  · intro hquiet turns hturns
    exact polled_of_quiet h hquiet hturns

/-- Two clients, with the sockets 5 and 6. -/
def twoClients : ClientList := ⟨some 0, fun a => [⟨5, some 1⟩, ⟨6, none⟩][a]?⟩

/-- Two clients in a chain. -/
theorem linked_twoClients : Linked twoClients [0, 1] := by
  have hfirst : twoClients.nodes 0 = some ⟨5, some 1⟩ := rfl
  have hsecond : twoClients.nodes 1 = some ⟨6, none⟩ := rfl
  exact ⟨by decide, .cons hfirst (.cons hsecond (.nil none))⟩

/-- Both clients are read, and kept, if their reads fail. -/
theorem poll_pass_on_failed_reads :
    ∃ p, pollClients 3 (fun _ => some .failed) twoClients = .ok p ∧
      Polled (fun _ => some .failed) twoClients [0, 1] p :=
  (poll_pass_iff _ _ _ linked_twoClients).mpr (fun _ _ => id) 3 (by decide)

/-- An empty datagram for the first client: its link is read after it has been freed. -/
theorem poll_pass_fails :
    ¬ ∀ (reads : ℕ → Option Receipt) (l : ClientList) (addrs : List ℕ), Linked l addrs →
      ∀ turns, addrs.length < turns →
        ∃ p, pollClients turns reads l = .ok p ∧ Polled reads l addrs p := by
  intro h
  obtain ⟨p, hp, -⟩ := h (fun a => if a = 0 then some .empty else none) twoClients [0, 1]
    linked_twoClients 3 (by decide)
  have hfault : pollClients 3 (fun a => if a = 0 then some .empty else none) twoClients =
      .error (.freedCell 0) := rfl
  rw [hfault] at hp
  cases hp

end MirrorLink.Analysis
