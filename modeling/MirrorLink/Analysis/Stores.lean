import MirrorLink.Analysis.Description
import MirrorLink.Interface.DeviceDescription

/-!
# What a description stores

The loops of `remote_server_create` are one run over the stores they come to in document
order (`run_description`), each of which may go wrong.  A run that does not, behind the
store that makes the server, leaves in each member the texts that were stored there, one
behind the other (`run_stores`).
-/

set_option autoImplicit false

namespace MirrorLink.Analysis

open MirrorLink.Library MirrorLink.Program

/-! ## Stores -/

inductive Store where
  /-- A new server. -/
  | server
  | uuid (content : List UInt8)
  /-- An address of the service with index `type`. -/
  | url (type : ℕ) (member : Url) (content : List UInt8)
  deriving DecidableEq

def Store.run (ip : List UInt8) (port : UInt16) (server : Option RemoteServer) :
    Store → Except Fault (Option RemoteServer)
  | .server => pure (some (RemoteServer.zero ip port))
  | .uuid content => appendUuid server content
  | .url type member content => appendUrl server type member content

/-- The item that the store is. -/
def Store.item : Store → Item
  | .server => .server
  | .uuid _ => .uuid
  | .url type _ content => .url (type < 3) content

/-- The address that an element of this name holds. -/
def urlNamed (name : List UInt8) : Option Url :=
  if name = ascii "SCPDURL" then some .surl
  else if name = ascii "controlURL" then some .curl
  else if name = ascii "eventSubURL" then some .eurl
  else none

/-- The stores of a service, with this index before them. -/
def serviceStores : ℕ → List Element → List Store
  | _, [] => []
  | type, c4 :: cs =>
    if c4.name = ascii "serviceType" then serviceStores (serviceTypeOf c4.content type) cs
    else ((urlNamed c4.name).map fun u => Store.url type u c4.content).toList ++
      serviceStores type cs

def serviceListStores (c3 : Element) : List Store :=
  if c3.name = ascii "service" then serviceStores 3 c3.children else []

def deviceStores (c2 : Element) : List Store :=
  if c2.name = ascii "deviceType" ∧
      c2.content = ascii "urn:schemas-upnp-org:device:TmServerDevice:1"
  then [.server]
  else if c2.name = ascii "UDN" then [.uuid c2.content]
  else if c2.name = ascii "serviceList" then c2.children.flatMap serviceListStores
  else []

def rootStores (c1 : Element) : List Store :=
  if c1.name = ascii "device" then c1.children.flatMap deviceStores else []

/-- The stores of a description. -/
def stores (root : Element) : List Store := root.children.flatMap rootStores

/-- An address is named by its element. -/
theorem urlNamed_eq_some_iff (name : List UInt8) (u : Url) :
    urlNamed name = some u ↔ name = u.elementName := by
  have hcontrol : ascii "controlURL" ≠ ascii "SCPDURL" := by decide
  have hevent : ascii "eventSubURL" ≠ ascii "SCPDURL" := by decide
  have hevent' : ascii "eventSubURL" ≠ ascii "controlURL" := by decide
  unfold urlNamed
  constructor
  · intro h
    split_ifs at h with h0 h1 h2 <;> cases h <;> assumption
  · rintro rfl
    cases u with
    | surl => rfl
    | curl => simp [Url.elementName, hcontrol]
    | eurl => simp [Url.elementName, hevent, hevent']

/-- The type of a service is not one of them. -/
theorem serviceType_ne_elementName (u : Url) : ascii "serviceType" ≠ u.elementName := by
  cases u <;> decide

/-- Other elements are none of them. -/
theorem urlNamed_eq_none_iff (name : List UInt8) :
    urlNamed name = none ↔ ∀ u : Url, name ≠ u.elementName := by
  rw [Option.eq_none_iff_forall_ne_some]
  simp only [ne_eq, urlNamed_eq_some_iff]

/-! ## The loops as one run -/

section Run

variable (ip : List UInt8) (port : UInt16)

/-- A loop over elements, each of which is a run of its stores. -/
theorem foldlM_flatMap_stores
    {f : Option RemoteServer → Element → Except Fault (Option RemoteServer)}
    {items : Element → List Store}
    (h : ∀ server e, f server e = (items e).foldlM (Store.run ip port) server)
    (es : List Element) (server : Option RemoteServer) :
    es.foldlM f server = (es.flatMap items).foldlM (Store.run ip port) server := by
  induction es generalizing server with
  | nil => rfl
  | cons e es ih =>
    rw [List.foldlM_cons, List.flatMap_cons, List.foldlM_append, h]
    congr 1
    funext server'
    exact ih server'

/-- A service is read as its stores run. -/
theorem run_service (cs : List Element) (server : Option RemoteServer) (type : ℕ) :
    (cs.foldlM serviceChild (server, type) >>= fun s => pure s.1) =
      (serviceStores type cs).foldlM (Store.run ip port) server := by
  induction cs generalizing server type with
  | nil => rfl
  | cons c4 cs ih =>
    rw [List.foldlM_cons, serviceStores]
    by_cases htype : c4.name = ascii "serviceType"
    · rw [serviceChild, if_pos htype, if_pos htype, pure_bind]
      exact ih server _
    · rw [if_neg htype, bind_assoc]
      have hchild : serviceChild (server, type) c4 =
          (urlNamed c4.name).elim (pure (server, type)) fun u =>
            appendUrl server type u c4.content >>= fun server => pure (server, type) := by
        unfold serviceChild urlNamed
        rw [if_neg htype]
        split_ifs <;> rfl
      rw [hchild]
      cases urlNamed c4.name with
      | none =>
        simp only [Option.elim_none, pure_bind, Option.map_none, Option.toList_none,
          List.nil_append]
        exact ih server type
      | some u =>
        simp only [Option.elim_some, bind_assoc, pure_bind, Option.map_some, Option.toList_some,
          List.singleton_append, List.foldlM_cons]
        congr 1
        funext server'
        exact ih server' type

/-- So is a child of the list of services. -/
theorem run_serviceListChild (server : Option RemoteServer) (c3 : Element) :
    serviceListChild server c3 = (serviceListStores c3).foldlM (Store.run ip port) server := by
  unfold serviceListChild serviceListStores
  split_ifs
  · exact run_service ip port c3.children server 3
  · rfl

/-- So is a child of the device. -/
theorem run_deviceChild (server : Option RemoteServer) (c2 : Element) :
    deviceChild ip port server c2 = (deviceStores c2).foldlM (Store.run ip port) server := by
  unfold deviceChild deviceStores
  split_ifs
  · rfl
  · simp [Store.run]
  · exact foldlM_flatMap_stores ip port (run_serviceListChild ip port) c2.children server
  · rfl

/-- So is a child of the description. -/
theorem run_rootChild (server : Option RemoteServer) (c1 : Element) :
    rootChild ip port server c1 = (rootStores c1).foldlM (Store.run ip port) server := by
  unfold rootChild rootStores
  split_ifs
  · exact foldlM_flatMap_stores ip port (run_deviceChild ip port) c1.children server
  · rfl

/-- **The loops are one run** over the stores of the description. -/
theorem run_description (root : Element) (server : Option RemoteServer) :
    root.children.foldlM (rootChild ip port) server =
      (stores root).foldlM (Store.run ip port) server :=
  foldlM_flatMap_stores ip port (run_rootChild ip port) root.children server

end Run

/-! ## Their items -/

/-- The stores of a service are its items. -/
theorem map_item_serviceStores (type : ℕ) (cs : List Element) :
    (serviceStores type cs).map Store.item = serviceItems (type < 3) cs := by
  induction cs generalizing type with
  | nil => rfl
  | cons c4 cs ih =>
    rw [serviceStores]
    by_cases htype : c4.name = ascii "serviceType"
    · rw [if_pos htype, serviceItems_serviceType type cs htype, ih]
    · have hitems : ((urlNamed c4.name).map fun u => Store.url type u c4.content).toList.map
          Store.item = if IsUrl c4 then [.url (type < 3) c4.content] else [] := by
        unfold urlNamed IsUrl
        split_ifs with h0 h1 h2 h3 h3 h3 h3 <;> simp_all [Store.item]
      rw [if_neg htype, serviceItems_of_ne _ cs htype, List.map_append, ih, hitems]

/-- **The stores of a description are its items.** -/
theorem map_item_stores (root : Element) :
    (stores root).map Store.item = descriptionItems (some root) := by
  have hlist : ∀ c3, (serviceListStores c3).map Store.item = serviceListItems c3 := by
    intro c3
    unfold serviceListStores serviceListItems
    split_ifs
    · exact map_item_serviceStores 3 c3.children
    · rfl
  have hdevice : ∀ c2, (deviceStores c2).map Store.item = deviceItems c2 := by
    intro c2
    unfold deviceStores deviceItems
    split_ifs
    · rfl
    · rfl
    · rw [List.map_flatMap]
      simp only [hlist]
    · rfl
  have hroot : ∀ c1, (rootStores c1).map Store.item = rootItems c1 := by
    intro c1
    unfold rootStores rootItems
    split_ifs
    · rw [List.map_flatMap]
      simp only [hdevice]
    · rfl
  rw [stores, List.map_flatMap]
  simp only [hroot]
  rfl

/-! ## What a run stores -/

/-- The text that is stored in `uuid`. -/
def Store.uuidText : Store → List UInt8
  | .uuid content => content
  | _ => []

/-- The text that is stored in a member at an index. -/
def Store.urlText (k : ℕ) (u : Url) : Store → List UInt8
  | .url type member content => if type = k ∧ member = u then content else []
  | _ => []

/-- An address is appended to its own member. -/
theorem member_append (info : ServiceInfo) (content : List UInt8) (m u : Url) :
    (info.append content m).member u =
      if m = u then strAppend (info.member u) content else info.member u := by
  cases m <;> cases u <;> rfl

/-- What becomes of the members when an address is stored. -/
theorem appendUrl_eq_ok {s : RemoteServer} {type : ℕ} {member : Url} {content : List UInt8}
    {r : Option RemoteServer} (h : appendUrl (some s) type member content = .ok r) :
    ∃ t, r = some t ∧ t.uuid = s.uuid ∧ ∀ (k : Fin 3) (u : Url), (t.sinfo k).member u =
      if type = k ∧ member = u then strAppend ((s.sinfo k).member u) content
      else (s.sinfo k).member u := by
  have hrun : appendUrl (some s) type member content =
      if content = [] then pure (some s)
      else if htype : type < 3 then pure (some { s with
        sinfo := Function.update s.sinfo ⟨type, htype⟩
          ((s.sinfo ⟨type, htype⟩).append content member) })
      else .error .outsideArray := rfl
  rw [hrun] at h
  by_cases hcontent : content = []
  · rw [if_pos hcontent] at h
    cases h
    refine ⟨s, rfl, rfl, fun k u => ?_⟩
    rw [hcontent, strAppend_nil, ite_self]
  · rw [if_neg hcontent] at h
    by_cases htype : type < 3
    · rw [dif_pos htype] at h
      cases h
      refine ⟨_, rfl, rfl, fun k u => ?_⟩
      by_cases hk : type = k
      · subst hk
        simp only [Function.update_self, member_append, true_and]
      · have hne : k ≠ ⟨type, htype⟩ := fun h => hk (congrArg Fin.val h).symm
        rw [if_neg fun h => hk h.1]
        show (Function.update s.sinfo _ _ k).member u = _
        rw [Function.update_of_ne hne]
    · rw [dif_neg htype] at h
      cases h

/-- **A run over stores.**  Behind the store that makes the server each member collects its
texts. -/
theorem run_stores (ip : List UInt8) (port : UInt16) {es : List Store} (hes : .server ∉ es)
    {s : RemoteServer} {r : Option RemoteServer}
    (h : es.foldlM (Store.run ip port) (some s) = .ok r) :
    ∃ t, r = some t ∧ t.uuid = strAppend s.uuid (es.flatMap Store.uuidText) ∧
      ∀ (k : Fin 3) (u : Url), (t.sinfo k).member u =
        strAppend ((s.sinfo k).member u) (es.flatMap (Store.urlText k u)) := by
  induction es generalizing s with
  | nil =>
    cases h
    exact ⟨s, rfl, rfl, fun _ _ => rfl⟩
  | cons e es ih =>
    rw [List.mem_cons, not_or] at hes
    rw [List.foldlM_cons] at h
    obtain ⟨r', hfirst, hrest⟩ := bind_eq_ok.mp h
    cases e with
    | server => exact absurd rfl hes.1
    | uuid content =>
      cases hfirst
      obtain ⟨t, rfl, huuid, hurl⟩ := ih hes.2 hrest
      refine ⟨t, rfl, ?_, hurl⟩
      rw [huuid, strAppend_strAppend, List.flatMap_cons]
      rfl
    | url type member content =>
      obtain ⟨s', rfl, huuid', hurl'⟩ := appendUrl_eq_ok hfirst
      obtain ⟨t, rfl, huuid, hurl⟩ := ih hes.2 hrest
      refine ⟨t, rfl, huuid.trans (by rw [huuid']; rfl), fun k u => ?_⟩
      rw [hurl, hurl', List.flatMap_cons, Store.urlText]
      by_cases hk : type = k ∧ member = u
      · rw [if_pos hk, if_pos hk, strAppend_strAppend]
      · rw [if_neg hk, if_neg hk, List.nil_append]

end MirrorLink.Analysis
