import MirrorLink.Analysis.Actions
import Mathlib.Data.List.Perm.Subperm

/-!
# The life of an application list

`onStart` frees the nodes of the list it has gone through, and the server keeps its pointer
to the first of them.  The next listing is linked in front of it.  So whether nothing goes
wrong depends on whether the pointer is null when `onStart` begins (`app_list_iff`).
-/

set_option autoImplicit false

namespace MirrorLink.Analysis

open MirrorLink.Library MirrorLink.Program

variable (parse : Option (List UInt8) → Option Element)

/-! ## Linking and going through -/

/-- The applications an answer lists, in order. -/
def listed (listing : Option Element) : List App :=
  ((elementChildren listing).filter fun e => e.name = ascii "app").map appOf

/-- What linking a listing in front of a list does. -/
structure LinkedInFront (s : RemoteServer × AppHeap) (added : List App)
    (s' : RemoteServer × AppHeap) (as : List ℕ) : Prop where
  chain : Chain s'.2.nodes s'.1.appList as s.1.appList
  nodup : as.Nodup
  new : ∀ a ∈ as, s.2.fresh ≤ a ∧ a < s'.2.fresh
  values : s'.2.nodes.values as = added.reverse
  old : ∀ a < s.2.fresh, s'.2.nodes a = s.2.nodes a
  grows : s.2.fresh ≤ s'.2.fresh

/-- The apps of a reply are linked in front of the list, the last of them first. -/
theorem addApps_spec (es : List Element) (s : RemoteServer × AppHeap) :
    ∃ as, LinkedInFront s ((es.filter fun e => e.name = ascii "app").map appOf)
      (es.foldl addApp s) as := by
  induction es using List.reverseRecOn with
  | nil =>
    refine ⟨[], .nil _, List.nodup_nil, ?_, rfl, fun _ _ => rfl, le_rfl⟩
    intro a ha
    exact absurd ha List.not_mem_nil
  | append_singleton es e ih =>
    obtain ⟨as, h⟩ := ih
    rw [List.foldl_append]
    generalize es.foldl addApp s = t at h
    have hnew : t.2.fresh ∉ as := fun hmem => absurd (h.new _ hmem).2 (Nat.lt_irrefl _)
    -- what has been linked so far is where it was
    have hchain : ∀ node, Chain (t.2.alloc node).2.nodes t.1.appList as s.1.appList := by
      intro node
      exact chain_congr (fun a ha => t.2.alloc_of_lt node (h.new a ha).2) h.chain
    have hnew' : ∀ a ∈ as, s.2.fresh ≤ a ∧ a < t.2.fresh + 1 := by
      intro a ha
      exact ⟨(h.new a ha).1, Nat.lt_succ_of_lt (h.new a ha).2⟩
    have hvalues : ∀ node, (t.2.alloc node).2.nodes.values as = t.2.nodes.values as := by
      intro node
      apply List.filterMap_congr
      intro a ha
      rw [t.2.alloc_of_lt node (h.new a ha).2]
    have hold : ∀ node, ∀ a < s.2.fresh, (t.2.alloc node).2.nodes a = s.2.nodes a := by
      intro node a ha
      rw [t.2.alloc_of_lt node (Nat.lt_of_lt_of_le ha h.grows), h.old a ha]
    rw [List.foldl_cons, List.foldl_nil, List.filter_append]
    by_cases hname : e.name = ascii "app"
    · refine ⟨t.2.fresh :: as, ?_⟩
      rw [addApp, if_pos hname, List.filter_cons_of_pos (by simpa using hname), List.filter_nil,
        List.map_append, List.map_singleton]
      refine ⟨.cons (t.2.alloc_self _) (hchain _), List.nodup_cons.mpr ⟨hnew, h.nodup⟩, ?_, ?_,
        hold _, Nat.le_succ_of_le h.grows⟩
      · intro a ha
        rcases List.mem_cons.mp ha with rfl | ha
        · exact ⟨h.grows, Nat.lt_succ_self _⟩
        · exact hnew' a ha
      · rw [List.reverse_append, List.reverse_singleton, ← h.values, ← hvalues]
        exact List.filterMap_cons_some (congrArg _ (t.2.alloc_self _))
    · refine ⟨as, ?_⟩
      rw [addApp, if_neg hname, List.filter_cons_of_neg (by simpa using hname), List.filter_nil,
        List.append_nil]
      exact ⟨hchain _, h.nodup, hnew', (hvalues _).trans h.values, hold _,
        Nat.le_succ_of_le h.grows⟩

/-- The memory with several nodes freed. -/
def freeAll (apps : AppHeap) (as : List ℕ) : AppHeap := as.foldl AppHeap.free apps

/-- **Going through a list.**  The nodes of a chain are emitted and freed, and the loop goes
on behind them. -/
theorem emitApps_chain {apps : AppHeap} {p q : Option ℕ} {as : List ℕ} (turns : ℕ)
    (hchain : Chain apps.nodes p as q) (hnodup : as.Nodup) :
    emitApps (as.length + turns) p apps =
      (emitApps turns q (freeAll apps as)).map fun r => (apps.nodes.values as ++ r.1, r.2) := by
  induction as generalizing p apps with
  | nil =>
    cases hchain
    rw [List.length_nil, Nat.zero_add]
    show _ = (emitApps turns q apps).map id
    rw [Except.map_id]
    rfl
  | cons a as ih =>
    cases hchain with
    | cons ha hrest =>
    rename_i node
    have hnotin := (List.nodup_cons.mp hnodup).1
    have hne : ∀ b ∈ as, b ≠ a := by
      rintro b hb rfl
      exact hnotin hb
    have hrest' : Chain (apps.free a).nodes node.next as q :=
      chain_congr (fun b hb => Heap.free_of_ne _ (hne b hb)) hrest
    have hvalues : (apps.free a).nodes.values as = apps.nodes.values as :=
      List.filterMap_congr fun b hb => congrArg _ (Heap.free_of_ne _ (hne b hb))
    have hcons : apps.nodes.values (a :: as) = node.value :: apps.nodes.values as :=
      List.filterMap_cons_some (by rw [ha]; rfl)
    rw [List.length_cons, Nat.add_right_comm, emitApps, Heap.load_eq ha]
    show (emitApps (as.length + turns) node.next (apps.free a) >>= _) = _
    rw [ih hrest' (List.nodup_cons.mp hnodup).2, hvalues, hcons]
    show _ = (emitApps turns q (freeAll (apps.free a) as)).map _
    cases emitApps turns q (freeAll (apps.free a) as) <;> rfl

/-- What has been emitted was there, and is freed. -/
theorem emitApps_ok {turns : ℕ} {p : Option ℕ} {apps apps' : AppHeap} {emitted : List App}
    (h : emitApps turns p apps = .ok (emitted, apps')) :
    apps.nodes.Shrinks apps'.nodes ∧ apps'.fresh = apps.fresh ∧
      ∀ a, p = some a → apps.nodes a ≠ none ∧ apps'.nodes a = none := by
  induction turns generalizing p apps emitted with
  | zero => cases h
  | succ turns ih =>
    cases p with
    | none =>
      cases h
      exact ⟨Heap.Shrinks.refl _, rfl, fun a ha => nomatch ha⟩
    | some app =>
      obtain ⟨node, hload, h⟩ := bind_eq_ok.mp h
      obtain ⟨⟨emitted', apps''⟩, hrest, h⟩ := bind_eq_ok.mp h
      cases h
      obtain ⟨hshrinks, hfresh, -⟩ := ih hrest
      refine ⟨(Heap.shrinks_free apps.nodes app).trans hshrinks, hfresh, ?_⟩
      rintro a ⟨⟩
      refine ⟨?_, hshrinks app (Heap.free_self _ _)⟩
      rw [Heap.load_eq_ok.mp hload]
      exact Option.some_ne_none _

/-- Freeing the list allocates nothing. -/
theorem shrinks_freeAll (apps : AppHeap) (as : List ℕ) :
    apps.nodes.Shrinks (freeAll apps as).nodes := by
  induction as generalizing apps with
  | nil => exact Heap.Shrinks.refl _
  | cons a as ih => exact (Heap.shrinks_free apps.nodes a).trans (ih (apps.free a))

/-! ## Fetching -/

def appListingPath : List (List UInt8) :=
  [ascii "Envelope", ascii "Body", ascii "GetApplicationListResponse", ascii "AppListing"]

/-- A listing can be fetched from the server: the request can be sent, and in the document it is
answered with, every pointer that is followed is there. -/
def CanFetch (parse : Option (List UInt8) → Option Element) (server : RemoteServer)
    (list : Reply) : Prop :=
  Sendable server serviceTypeApp list ∧
    ∀ rsp, list = .answered (some rsp) → rsp.val.errcode = 200 →
      Followable appListingPath (parse rsp.val.body)

/-- The document a reply brings in its `AppListing`. -/
def listing : Reply → Option Element
  | .answered (some rsp) =>
    if rsp.val.errcode = 200 then
      (elementAt appListingPath (parse rsp.val.body)).bind fun e => parse (some e.content)
    else none
  | _ => none

/-- The applications of the listing a reply brings. -/
def fetched (list : Reply) : List App := listed (listing parse list)

variable {parse}

/-- **Fetching a listing** links its applications in front. -/
theorem getApplicationList_spec {server : RemoteServer} {apps : AppHeap} {pid : UInt32}
    {filter : List UInt8} {list : Reply} {ret : UInt16} {s' : RemoteServer × AppHeap}
    (h : remoteServerGetApplicationList parse server apps pid filter list = .ok (ret, s')) :
    ∃ as, LinkedInFront (server, apps) (fetched parse list) s' as := by
  have hnothing : listing parse list = none → s' = (server, apps) →
      ∃ as, LinkedInFront (server, apps) (fetched parse list) s' as := by
    intro hlisting hs'
    rw [fetched, hlisting, hs']
    exact addApps_spec [] (server, apps)
  obtain ⟨args, -, h⟩ := bind_eq_ok.mp h
  obtain ⟨rp, hbrings, hact⟩ := invokeAction_eq_ok.mp h
  rcases hbrings.reply_eq with ⟨rfl, hreply⟩ | ⟨rsp, rfl, hreply⟩
  · cases hact
    apply hnothing _ rfl
    rcases hreply with hreply | hreply
    · rw [hreply]
      rfl
    · rw [hreply]
      rfl
  · rw [actOn] at hact
    by_cases hcode : rsp.val.errcode = 200
    · rw [if_pos hcode] at hact
      obtain ⟨⟨code, t⟩, hhandler, hact⟩ := bind_eq_ok.mp hact
      cases hact
      obtain ⟨found, hfound, hhandler⟩ := bind_eq_ok.mp hhandler
      have hlisting : listing parse list =
          (elementAt appListingPath (parse rsp.val.body)).bind fun e => parse (some e.content) := by
        rw [hreply, listing, if_pos hcode]
      cases found with
      | none =>
        cases hhandler
        have hnone : elementAt appListingPath (parse rsp.val.body) = none :=
          elementAt_of_descend_none hfound
        apply hnothing _ rfl
        rw [hlisting, hnone]
        rfl
      | some e =>
        cases hhandler
        have hat : elementAt appListingPath (parse rsp.val.body) = some e :=
          (descend_eq_some_iff _ _ _ e).mp hfound
        rw [fetched, hlisting, hat]
        exact addApps_spec _ (server, apps)
    · rw [if_neg hcode] at hact
      cases hact
      apply hnothing _ rfl
      rw [hreply, listing, if_neg hcode]

/-- Fetching a listing comes back exactly if a listing can be fetched. -/
theorem exists_getApplicationList_iff (server : RemoteServer) (apps : AppHeap) (list : Reply) :
    (∃ r, remoteServerGetApplicationList parse server apps 0 (ascii "*") list = .ok r) ↔
      CanFetch parse server list := by
  have hfilter : (ascii "*").length = 1 := rfl
  have hlength := length_listArgs (ascii "*") 0
  have hpid := length_decimalInt_le 0
  have haction : (ascii "GetApplicationList").length ≤ 20 := show 18 ≤ 20 by omega
  have hhandler : ∀ content, (∃ result,
      getApplicationListParse parse (server, apps) content = .ok result) ↔
        Followable appListingPath (parse content) := by
    intro content
    rw [← exists_descend_iff]
    constructor
    · rintro ⟨result, h⟩
      obtain ⟨found, hfound, -⟩ := bind_eq_ok.mp h
      exact ⟨found, hfound⟩
    · rintro ⟨found, hfound⟩
      cases found with
      | none => exact ⟨_, bind_eq_ok.mpr ⟨none, hfound, rfl⟩⟩
      | some e => exact ⟨_, bind_eq_ok.mpr ⟨some e, hfound, rfl⟩⟩
  rw [getApplicationList_eq parse apps (by omega), exists_invokeAction_iff haction (by omega)]
  simp only [hhandler]
  exact Iff.rfl

/-! ## Servers that have just been created -/

/-- The server, if there is one, has no applications. -/
def NoApps (server : Option RemoteServer) : Prop := ∀ s, server = some s → s.appList = none

/-- Appending an address touches no app. -/
theorem noApps_appendUrl {server server' : Option RemoteServer} {type : ℕ} {url : Url}
    {content : List UInt8} (h : NoApps server)
    (happend : appendUrl server type url content = .ok server') : NoApps server' := by
  obtain ⟨s, hs, happend⟩ := bind_eq_ok.mp happend
  have hnone := h s (deref_eq_ok.mp hs)
  split_ifs at happend
  · cases happend
    rintro t ⟨⟩
    exact hnone
  · cases happend
    rintro t ⟨⟩
    exact hnone

/-- Nor does a child of a service. -/
theorem noApps_serviceChild {s s' : Option RemoteServer × ℕ} {c4 : Element} (h : NoApps s.1)
    (hchild : serviceChild s c4 = .ok s') : NoApps s'.1 := by
  have hurl : ∀ url, (appendUrl s.1 s.2 url c4.content >>= fun server => pure (server, s.2)) =
      .ok s' → NoApps s'.1 := by
    intro url hbind
    obtain ⟨server, happend, hbind⟩ := bind_eq_ok.mp hbind
    cases hbind
    exact noApps_appendUrl h happend
  unfold serviceChild at hchild
  split_ifs at hchild
  · cases hchild
    exact h
  · exact hurl .surl hchild
  · exact hurl .curl hchild
  · exact hurl .eurl hchild
  · cases hchild
    exact h

/-- Nor does a child of the device. -/
theorem noApps_deviceChild {ip : List UInt8} {port : UInt16} {server server' : Option RemoteServer}
    {c2 : Element} (h : NoApps server) (hchild : deviceChild ip port server c2 = .ok server') :
    NoApps server' := by
  unfold deviceChild at hchild
  split_ifs at hchild
  · cases hchild
    rintro t ⟨⟩
    rfl
  · obtain ⟨s, hs, hchild⟩ := bind_eq_ok.mp hchild
    cases hchild
    rintro t ⟨⟩
    exact h s (deref_eq_ok.mp hs)
  · refine foldlM_invariant NoApps ?_ h hchild
    intro t c3 t' ht hc3
    unfold serviceListChild at hc3
    split_ifs at hc3
    · obtain ⟨u, hu, hc3⟩ := bind_eq_ok.mp hc3
      cases hc3
      exact foldlM_invariant (fun s => NoApps s.1) (fun _ _ _ => noApps_serviceChild)
        (s := (t, 3)) ht hu
    · cases hc3
      exact ht
  · cases hchild
    exact h

/-- A server that has just been created has no applications. -/
theorem noApps_remoteServerCreate {ip path : List UInt8} {port : UInt16} {create : Reply}
    {server : Option RemoteServer}
    (h : remoteServerCreate parse ip port path create = .ok server) : NoApps server := by
  obtain ⟨rp, -, h⟩ := bind_eq_ok.mp h
  have hnone : NoApps none := fun s hs => nomatch hs
  cases rp with
  | none =>
    cases h
    exact hnone
  | some rsp =>
    rw [describe] at h
    split_ifs at h
    · refine foldlM_invariant NoApps ?_ hnone h
      intro t c1 t' ht hc1
      unfold rootChild at hc1
      split_ifs at hc1
      · exact foldlM_invariant NoApps (fun _ _ _ => noApps_deviceChild) ht hc1
      · cases hc1
        exact ht
    · cases h
      exact hnone

/-! ## One start -/

/-- Whatever the server's list begins with has been freed. -/
def AppsFreed (c : MirrorLinkClient) : Prop :=
  ∀ server, c.server = some server → ∀ a, server.appList = some a →
    c.apps.nodes a = none ∧ a < c.apps.fresh

/-- A list has no more cells than have been allocated. -/
theorem length_le_fresh {s s' : RemoteServer × AppHeap} {added : List App} {as : List ℕ}
    (h : LinkedInFront s added s' as) : as.length ≤ s'.2.fresh := by
  have hsub : as ⊆ List.range s'.2.fresh := by
    intro a ha
    exact List.mem_range.mpr (h.new a ha).2
  have hlength := (h.nodup.subperm hsub).length_le
  rwa [List.length_range] at hlength

/-- With no applications before, the listing is emitted, from its end to its beginning. -/
theorem emitApps_of_none {s s' : RemoteServer × AppHeap} {added : List App} {as : List ℕ}
    (h : LinkedInFront s added s' as) (hnone : s.1.appList = none) :
    emitApps (s'.2.fresh + 1) s'.1.appList s'.2 = .ok (added.reverse, freeAll s'.2 as) := by
  obtain ⟨turns, hturns⟩ : ∃ turns, s'.2.fresh + 1 = as.length + (turns + 1) := by
    have := length_le_fresh h
    exact ⟨s'.2.fresh - as.length, by omega⟩
  rw [hturns, emitApps_chain _ h.chain h.nodup, hnone, h.values]
  show Except.ok (added.reverse ++ [], freeAll s'.2 as) = _
  rw [List.append_nil]

/-- With a list that has been freed before, the first of its nodes is used again. -/
theorem emitApps_of_freed {s s' : RemoteServer × AppHeap} {added : List App} {as : List ℕ}
    (h : LinkedInFront s added s' as) {a : ℕ} (ha : s.1.appList = some a)
    (hfreed : s.2.nodes a = none) (hlt : a < s.2.fresh) :
    emitApps (s'.2.fresh + 1) s'.1.appList s'.2 = .error (.freedCell a) := by
  obtain ⟨turns, hturns⟩ : ∃ turns, s'.2.fresh + 1 = as.length + (turns + 1) := by
    have := length_le_fresh h
    exact ⟨s'.2.fresh - as.length, by omega⟩
  have hgone : (freeAll s'.2 as).nodes a = none :=
    shrinks_freeAll s'.2 as a ((h.old a hlt).trans hfreed)
  rw [hturns, emitApps_chain _ h.chain h.nodup, ha, emitApps, Heap.load_of_free hgone]
  rfl

/-- A list that has been gone through has been freed. -/
theorem appsFreed_listApplications {server : RemoteServer} {apps : AppHeap} {list : Reply}
    {c' : MirrorLinkClient} {emitted : List App}
    (h : listApplications parse server apps list = .ok (c', emitted)) : AppsFreed c' := by
  obtain ⟨⟨ret, server', apps'⟩, -, h⟩ := bind_eq_ok.mp h
  obtain ⟨⟨emitted', apps''⟩, hemit, h⟩ := bind_eq_ok.mp h
  cases h
  obtain ⟨-, hfresh, hhead⟩ := emitApps_ok hemit
  rintro t ⟨⟩ a ha
  obtain ⟨hallocated, hfreed⟩ := hhead a ha
  refine ⟨hfreed, ?_⟩
  rw [hfresh]
  by_contra hge
  exact hallocated (apps'.unused a (Nat.le_of_not_lt hge))

/-- What `onStart` and the other slots should do from `c`: use no application that has been
freed, link none in front of one, and emit the applications of the listing that was fetched,
each once. -/
structure CleanStep (parse : Option (List UInt8) → Option Element) (c : MirrorLinkClient)
    (slot : Slot) : Prop where
  noFreed : ∀ a, slotStep parse c slot ≠ .error (.freedCell a)
  links : ∀ ip port path create list, slot = .onStart ip port path create list →
    ∀ server r, ensureServer parse c.server ip port path create = .ok (some server) →
      remoteServerGetApplicationList parse server c.apps 0 (ascii "*") list = .ok r →
        fetched parse list ≠ [] → ∀ a, server.appList = some a → c.apps.nodes a ≠ none
  emits : ∀ ip port path create list, slot = .onStart ip port path create list →
    ∀ c' shown, slotStep parse c slot = .ok (c', shown) →
      shown.Perm ((if c'.server.isSome then fetched parse list else []).map .addApp)

/-- If the slot is `onStart` and finds a server a listing can be fetched from, this has no
applications. -/
def StartsWithNull (parse : Option (List UInt8) → Option Element) (c : MirrorLinkClient)
    (slot : Slot) : Prop :=
  ∀ ip port path create list, slot = .onStart ip port path create list →
    ∀ server, c.server = some server → CanFetch parse server list → server.appList = none

/-- The faults that use no freed memory. -/
def NotFreed : Fault → Prop
  | .freedCell _ => False
  | _ => True

/-- Asking for the list touches no freed cell. -/
theorem failsOnly_getApplicationList (server : RemoteServer) (apps : AppHeap) (pid : UInt32)
    (filter : List UInt8) (list : Reply) :
    FailsOnly NotFreed (remoteServerGetApplicationList parse server apps pid filter list) := by
  refine (failsOnly_sprintfInto (P := NotFreed) trivial _ _).bind fun args _ => ?_
  exact failsOnly_invokeAction trivial trivial fun content =>
    failsOnly_getApplicationListParse (P := NotFreed) trivial parse _ content

/-- Nor does creating the server. -/
theorem failsOnly_ensureServer (server : Option RemoteServer) (ip : List UInt8) (port : UInt16)
    (path : List UInt8) (create : Reply) :
    FailsOnly NotFreed (ensureServer parse server ip port path create) := by
  cases server with
  | some server => exact failsOnly_ok _ _
  | none =>
    refine (failsOnly_httpExchange (P := NotFreed) trivial _ _ _ _).bind fun rp _ => ?_
    exact failsOnly_describe (P := NotFreed) trivial trivial _ _ _ _

/-- Nor does a launch. -/
theorem failsOnly_onLaunch (c : MirrorLinkClient) (appid : UInt32) (launch : Reply) :
    FailsOnly NotFreed (onLaunch parse c appid launch) := by
  unfold onLaunch
  cases c.server with
  | none => exact failsOnly_ok _ _
  | some server =>
    have hlaunch : FailsOnly NotFreed
        (remoteServerLaunchApplication parse server appid 0 launch) := by
      refine (failsOnly_sprintfInto (P := NotFreed) trivial _ _).bind fun args _ => ?_
      exact failsOnly_invokeAction trivial trivial fun content =>
        failsOnly_launchApplicationParse (P := NotFreed) trivial trivial parse _ content
    exact hlaunch.bind fun _ _ => failsOnly_ok _ _

/-- `onStart` with a server that has no applications. -/
theorem onStart_of_noApps {c : MirrorLinkClient} {ip path : List UInt8} {port : UInt16}
    {create list : Reply}
    (hnone : ∀ server r, ensureServer parse c.server ip port path create = .ok (some server) →
      remoteServerGetApplicationList parse server c.apps 0 (ascii "*") list = .ok r →
        server.appList = none) :
    FailsOnly NotFreed (onStart parse c ip port path create list) ∧
      ∀ c' emitted, onStart parse c ip port path create list = .ok (c', emitted) →
        emitted.Perm (if c'.server.isSome then fetched parse list else []) := by
  unfold onStart
  cases hensure : ensureServer parse c.server ip port path create with
  | error fault =>
    refine ⟨failsOnly_error (failsOnly_ensureServer _ _ _ _ _ _ hensure), ?_⟩
    intro c' emitted h
    cases h
  | ok server =>
    cases server with
    | none =>
      refine ⟨failsOnly_ok _ _, ?_⟩
      rintro c' emitted ⟨⟩
      exact List.Perm.refl _
    | some server =>
      show FailsOnly NotFreed (listApplications parse server c.apps list) ∧
        ∀ c' emitted, listApplications parse server c.apps list = .ok (c', emitted) → _
      unfold listApplications
      cases hget : remoteServerGetApplicationList parse server c.apps 0 (ascii "*") list with
      | error fault =>
        refine ⟨failsOnly_error (failsOnly_getApplicationList _ _ _ _ _ _ hget), ?_⟩
        intro c' emitted h
        cases h
      | ok r =>
        obtain ⟨ret, server', apps'⟩ := r
        obtain ⟨as, hlinked⟩ := getApplicationList_spec hget
        have hemit := emitApps_of_none hlinked (hnone server _ hensure hget)
        show FailsOnly NotFreed (emitApps (apps'.fresh + 1) server'.appList apps' >>= _) ∧
          ∀ c' emitted, (emitApps (apps'.fresh + 1) server'.appList apps' >>= _) = _ → _
        rw [hemit]
        refine ⟨failsOnly_ok _ _, ?_⟩
        rintro c' emitted ⟨⟩
        exact List.reverse_perm _

/-- `onStart` with a server whose applications have been freed. -/
theorem onStart_of_freed {c : MirrorLinkClient} {ip path : List UInt8} {port : UInt16}
    {create list : Reply} {server : RemoteServer} {r : UInt16 × RemoteServer × AppHeap} {a : ℕ}
    (hserver : c.server = some server)
    (hget : remoteServerGetApplicationList parse server c.apps 0 (ascii "*") list = .ok r)
    (ha : server.appList = some a) (hfreed : c.apps.nodes a = none) (hlt : a < c.apps.fresh) :
    onStart parse c ip port path create list = .error (.freedCell a) := by
  obtain ⟨ret, server', apps'⟩ := r
  obtain ⟨as, hlinked⟩ := getApplicationList_spec hget
  rw [onStart, hserver]
  show listApplications parse server c.apps list = _
  rw [listApplications, hget]
  show (emitApps (apps'.fresh + 1) server'.appList apps' >>= _) = _
  rw [emitApps_of_freed hlinked ha hfreed hlt]
  rfl

/-- `onStart` where the server it finds has no applications. -/
theorem cleanStep_onStart {c : MirrorLinkClient} {ip path : List UInt8} {port : UInt16}
    {create list : Reply}
    (hnull : StartsWithNull parse c (.onStart ip port path create list)) :
    CleanStep parse c (.onStart ip port path create list) := by
  have hnone : ∀ server r, ensureServer parse c.server ip port path create = .ok (some server) →
      remoteServerGetApplicationList parse server c.apps 0 (ascii "*") list = .ok r →
        server.appList = none := by
    intro server r hensure hget
    cases hserver : c.server with
    | some found =>
      rw [hserver] at hensure
      cases hensure
      have hfetch := (exists_getApplicationList_iff server c.apps list).mp ⟨r, hget⟩
      exact hnull ip port path create list rfl server hserver hfetch
    | none =>
      rw [hserver] at hensure
      exact noApps_remoteServerCreate hensure server rfl
  obtain ⟨honly, hemits⟩ := onStart_of_noApps hnone
  refine ⟨?_, ?_, ?_⟩
  · intro a hstep
    have hslot : FailsOnly NotFreed (slotStep parse c (.onStart ip port path create list)) :=
      honly.bind fun _ _ => failsOnly_ok _ _
    exact hslot _ hstep
  · rintro ip port path create list ⟨⟩ server r hensure hget - a ha
    rw [hnone server r hensure hget] at ha
    cases ha
  · rintro ip port path create list ⟨⟩ c' shown hstep
    obtain ⟨⟨d, emitted⟩, hstart, hstep⟩ := bind_eq_ok.mp hstep
    cases hstep
    exact (hemits _ _ hstart).map _

/-- Stopping touches no freed cell. -/
theorem cleanStep_onStop (c : MirrorLinkClient) : CleanStep parse c .onStop := by
  refine ⟨?_, ?_, ?_⟩
  · intro a hstep
    cases hstep
  · intro ip port path create list hslot
    cases hslot
  · intro ip port path create list hslot
    cases hslot

/-- Nor does launching. -/
theorem cleanStep_onLaunch (c : MirrorLinkClient) (appid : UInt32) (launch : Reply) :
    CleanStep parse c (.onLaunch appid launch) := by
  refine ⟨?_, ?_, ?_⟩
  · intro a hstep
    have hslot : FailsOnly NotFreed (slotStep parse c (.onLaunch appid launch)) :=
      (failsOnly_onLaunch c appid launch).bind fun _ _ => failsOnly_ok _ _
    exact hslot _ hstep
  · intro ip port path create list hslot
    cases hslot
  · intro ip port path create list hslot
    cases hslot

/-- **One slot.**  With all earlier applications freed, nothing goes wrong exactly if `onStart`
finds none. -/
theorem cleanStep_iff {c : MirrorLinkClient} (hfreed : AppsFreed c) (slot : Slot) :
    CleanStep parse c slot ↔ StartsWithNull parse c slot := by
  constructor
  · rintro hclean ip port path create list rfl server hserver hfetch
    obtain ⟨r, hget⟩ := (exists_getApplicationList_iff server c.apps list).mpr hfetch
    by_contra hne
    obtain ⟨a, ha⟩ := Option.ne_none_iff_exists'.mp hne
    obtain ⟨hnode, hlt⟩ := hfreed server hserver a ha
    apply hclean.noFreed a
    rw [slotStep, onStart_of_freed hserver hget ha hnode hlt]
    rfl
  · intro hnull
    cases slot with
    | onStart ip port path create list => exact cleanStep_onStart hnull
    | onStop => exact cleanStep_onStop c
    | onLaunch appid launch => exact cleanStep_onLaunch c appid launch

/-! ## Runs -/

/-- The handler of a launch leaves the list. -/
theorem appList_launchApplicationParse {server server' : RemoteServer}
    {content : Option (List UInt8)} {code : UInt8}
    (h : launchApplicationParse parse server content = .ok (code, server')) :
    server'.appList = server.appList := by
  obtain ⟨found, -, h⟩ := bind_eq_ok.mp h
  cases found with
  | none =>
    cases h
    rfl
  | some appUri =>
    obtain ⟨stored, hstore, h⟩ := bind_eq_ok.mp h
    have hkept : stored.appList = server.appList := by
      cases hip : (scanVncUri appUri.content).1 with
      | none =>
        rw [hip] at hstore
        cases hstore
        rfl
      | some ip =>
        rw [hip] at hstore
        obtain ⟨vncIp, -, hstore⟩ := bind_eq_ok.mp hstore
        cases hstore
        rfl
    cases hport : (scanVncUri appUri.content).2 with
    | none =>
      rw [hport] at h
      cases h
      exact hkept
    | some port =>
      rw [hport] at h
      cases h
      exact hkept

/-- A launch leaves the list. -/
theorem appList_launchApplication {server server' : RemoteServer} {appid pid : UInt32}
    {launch : Reply} {ret : UInt16}
    (h : remoteServerLaunchApplication parse server appid pid launch = .ok (ret, server')) :
    server'.appList = server.appList := by
  obtain ⟨args, -, h⟩ := bind_eq_ok.mp h
  obtain ⟨rp, -, hact⟩ := invokeAction_eq_ok.mp h
  cases rp with
  | none =>
    cases hact
    rfl
  | some rsp =>
    rw [actOn] at hact
    split_ifs at hact
    · obtain ⟨⟨code, t⟩, hhandler, hact⟩ := bind_eq_ok.mp hact
      cases hact
      exact appList_launchApplicationParse hhandler
    · cases hact
      rfl

/-- After each slot the cells of the list that is kept have been freed. -/
theorem appsFreed_slotStep {c c' : MirrorLinkClient} {slot : Slot} {shown : List Shown}
    (h : AppsFreed c) (hstep : slotStep parse c slot = .ok (c', shown)) : AppsFreed c' := by
  cases slot with
  | onStart ip port path create list =>
    obtain ⟨⟨d, emitted⟩, hstart, hstep⟩ := bind_eq_ok.mp hstep
    cases hstep
    obtain ⟨server, -, hstart⟩ := bind_eq_ok.mp hstart
    cases server with
    | none =>
      cases hstart
      rintro t ⟨⟩
    | some server => exact appsFreed_listApplications hstart
  | onStop =>
    cases hstep
    rintro t ⟨⟩
  | onLaunch appid launch =>
    obtain ⟨⟨d, started⟩, hlaunch, hstep⟩ := bind_eq_ok.mp hstep
    cases hstep
    unfold onLaunch at hlaunch
    cases hserver : c.server with
    | none =>
      rw [hserver] at hlaunch
      cases hlaunch
      exact h
    | some server =>
      rw [hserver] at hlaunch
      obtain ⟨⟨ret, server'⟩, hcall, hd⟩ := bind_eq_ok.mp hlaunch
      cases hd
      rintro t ⟨⟩ a ha
      rw [appList_launchApplication hcall] at ha
      exact h server hserver a ha

/-- **In every run** the list that a slot leaves behind has been freed. -/
theorem appsFreed_runSlots {slots : List Slot} {c : MirrorLinkClient}
    (h : runSlots parse MirrorLinkClient.init slots = .ok c) : AppsFreed c := by
  have hinit : AppsFreed MirrorLinkClient.init := fun _ hs => nomatch hs
  refine foldlM_invariant AppsFreed ?_ hinit h
  intro d slot d' hd hstep
  cases hslot : slotStep parse d slot with
  | error fault =>
    rw [hslot] at hstep
    cases hstep
  | ok r =>
    rw [hslot] at hstep
    cases hstep
    exact appsFreed_slotStep hd hslot

/-- **The life of an application list.**  In a run of the slots nothing goes wrong exactly if
every `onStart` that fetches a listing finds no list of an earlier one. -/
theorem app_list_iff (parse : Option (List UInt8) → Option Element) (slots : List Slot) :
    (∀ before slot after c, slots = before ++ slot :: after →
        runSlots parse MirrorLinkClient.init before = .ok c → CleanStep parse c slot) ↔
      ∀ before slot after c, slots = before ++ slot :: after →
        runSlots parse MirrorLinkClient.init before = .ok c → StartsWithNull parse c slot := by
  constructor
  · intro hclean before slot after c hsplit hrun
    exact (cleanStep_iff (appsFreed_runSlots hrun) slot).mp (hclean before slot after c hsplit hrun)
  · intro hnull before slot after c hsplit hrun
    exact (cleanStep_iff (appsFreed_runSlots hrun) slot).mpr (hnull before slot after c hsplit hrun)

/-! ## A second start -/

/-- A description with one control URL, as a document and as a tree. -/
def descriptionText : List UInt8 :=
  ascii "<root><device><deviceType>urn:schemas-upnp-org:device:TmServerDevice:1</deviceType>" ++
    ascii "<serviceList><service><serviceType>urn:schemas-upnp-org:service:TmApplicationServer:1" ++
    ascii "</serviceType><controlURL>/c</controlURL></service></serviceList></device></root>"

def descriptionTree : Element :=
  .mk (ascii "root") [] [.mk (ascii "device") [] [
    .mk (ascii "deviceType") (ascii "urn:schemas-upnp-org:device:TmServerDevice:1") [],
    .mk (ascii "serviceList") [] [.mk (ascii "service") [] [
      .mk (ascii "serviceType") (ascii "urn:schemas-upnp-org:service:TmApplicationServer:1") [],
      .mk (ascii "controlURL") (ascii "/c") []]]]]

/-- An answer that lists one application. -/
def listText : List UInt8 := ascii "<l><app><appID>0x1</appID></app></l>"

def listTree : Element :=
  .mk (ascii "l") (ascii "0x1") [.mk (ascii "app") (ascii "0x1") [
    .mk (ascii "appID") (ascii "0x1") []]]

def answerText : List UInt8 :=
  ascii "<Envelope><Body><GetApplicationListResponse><AppListing>" ++
    ascii "&lt;l&gt;&lt;app&gt;&lt;appID&gt;0x1&lt;/appID&gt;&lt;/app&gt;&lt;/l&gt;" ++
    ascii "</AppListing></GetApplicationListResponse></Body></Envelope>"

def answerTree : Element :=
  .mk (ascii "Envelope") listText [.mk (ascii "Body") listText [
    .mk (ascii "GetApplicationListResponse") listText [.mk (ascii "AppListing") listText []]]]

/-- `xmlParseDoc` on these three texts. -/
def parseTexts (text : Option (List UInt8)) : Option Element :=
  if text = some descriptionText then some descriptionTree
  else if text = some answerText then some answerTree
  else if text = some listText then some listTree
  else none

/-- `onStart`, with the description and the answer. -/
def startSlot : Slot :=
  .onStart (ascii "192.168.42.129") 8080 (ascii "/d.xml")
    (.answered (some ⟨⟨200, some descriptionText⟩, by decide⟩))
    (.answered (some ⟨⟨200, some answerText⟩, by decide⟩))

/-- `onStart` twice, without `onStop` between. -/
theorem app_list_fails :
    ¬ ∀ (parse : Option (List UInt8) → Option Element) (slots : List Slot),
      ∀ before slot after c, slots = before ++ slot :: after →
        runSlots parse MirrorLinkClient.init before = .ok c → CleanStep parse c slot := by
  intro h
  have hrun : ((runSlots parseTexts MirrorLinkClient.init [startSlot, startSlot]).map
      fun _ => ()) = .error (.freedCell 0) := by decide +kernel
  cases hslots : runSlots parseTexts MirrorLinkClient.init [startSlot, startSlot] with
  | ok c =>
    rw [hslots] at hrun
    cases hrun
  | error fault =>
    rw [hslots] at hrun
    cases hrun
    obtain ⟨before, slot, after, c, hsplit, hbefore, hstep⟩ := foldlM_eq_error hslots
    apply (h parseTexts _ before slot after c hsplit hbefore).noFreed 0
    cases hslot : slotStep parseTexts c slot with
    | error fault =>
      rw [hslot] at hstep
      cases hstep
      rfl
    | ok r =>
      rw [hslot] at hstep
      cases hstep

end MirrorLink.Analysis
