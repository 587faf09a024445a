import MirrorLink.Program.RemoteServer

/-!
# Descriptions of a device

The four loops of `remote_server_create` come to the elements of a description in document
order.  What matters of them is a list of items: a `deviceType` that makes a server, and
texts to be stored in it.  Everything goes well exactly if there is a server and an index
for each text before the text comes (`description_safe_iff`).
-/

set_option autoImplicit false

namespace MirrorLink.Analysis

open MirrorLink.Library MirrorLink.Program

/-! ## Items -/

/-- What the loops come to, in document order. -/
inductive Item where
  /-- A `deviceType` that names the device. -/
  | server
  /-- A `UDN`. -/
  | uuid
  /-- An address, with a known `serviceType` before it in its service or not. -/
  | url (known : Bool) (content : List UInt8)
  deriving DecidableEq

/-- A `serviceType` the code knows. -/
def IsKnownType (c4 : Element) : Prop :=
  c4.name = ascii "serviceType" ∧
    (c4.content = ascii "urn:schemas-upnp-org:service:TmApplicationServer:1" ∨
      c4.content = ascii "urn:schemas-upnp-org:service:TmClientProfile:1" ∨
        c4.content = ascii "urn:schemas-upnp-org:service:TmNotificationServer:1")

instance (c4 : Element) : Decidable (IsKnownType c4) := inferInstanceAs (Decidable (_ ∧ _))

/-- One of the three addresses of a service. -/
def IsUrl (c4 : Element) : Prop :=
  c4.name = ascii "SCPDURL" ∨ c4.name = ascii "controlURL" ∨ c4.name = ascii "eventSubURL"

instance (c4 : Element) : Decidable (IsUrl c4) := inferInstanceAs (Decidable (_ ∨ _))

/-- The items of a service, with a known `serviceType` before them or not. -/
def serviceItems : Bool → List Element → List Item
  | _, [] => []
  | known, c4 :: cs =>
    (if IsUrl c4 then [.url known c4.content] else []) ++ serviceItems (known || IsKnownType c4) cs

def serviceListItems (c3 : Element) : List Item :=
  if c3.name = ascii "service" then serviceItems false c3.children else []

def deviceItems (c2 : Element) : List Item :=
  if c2.name = ascii "deviceType" ∧
      c2.content = ascii "urn:schemas-upnp-org:device:TmServerDevice:1"
  then [.server]
  else if c2.name = ascii "UDN" then [.uuid]
  else if c2.name = ascii "serviceList" then c2.children.flatMap serviceListItems
  else []

def rootItems (c1 : Element) : List Item :=
  if c1.name = ascii "device" then c1.children.flatMap deviceItems else []

/-- The items of a document. -/
def descriptionItems (root : Option Element) : List Item :=
  (elementChildren root).flatMap rootItems

/-! ## Safe orders -/

/-- The text can be stored, behind these items. -/
def Item.Storable (present : Bool) (before : List Item) : Item → Prop
  | server => True
  | uuid => present = true ∨ .server ∈ before
  | url known content => (present = true ∨ .server ∈ before) ∧ (known = false → content = [])

/-- Every text can be stored when it comes.  `present` says whether there is a server before
the first item. -/
def SafeFrom (present : Bool) (items : List Item) : Prop :=
  ∀ before item after, items = before ++ item :: after → item.Storable present before

/-- Nothing can go wrong with nothing. -/
theorem safeFrom_nil (present : Bool) : SafeFrom present [] := by
  intro before item after h
  cases before <;> cases h

/-- The first item is stored, and the rest with the server it may have made. -/
theorem safeFrom_cons (present : Bool) (item : Item) (items : List Item) :
    SafeFrom present (item :: items) ↔
      item.Storable present [] ∧ SafeFrom (present || decide (item = .server)) items := by
  have hmove : ∀ before (i : Item),
      i.Storable (present || decide (item = .server)) before ↔
        i.Storable present (item :: before) := by
    intro before i
    have hserver : (present || decide (item = .server)) = true ∨ Item.server ∈ before ↔
        present = true ∨ Item.server ∈ item :: before := by
      rw [Bool.or_eq_true, decide_eq_true_eq, List.mem_cons, or_assoc, eq_comm (a := item)]
    cases i with
    | server => exact Iff.rfl
    | uuid => exact hserver
    | url known content => exact and_congr_left' hserver
  constructor
  · intro h
    refine ⟨h [] item items rfl, ?_⟩
    intro before i after hsplit
    rw [hmove]
    exact h (item :: before) i after (by rw [hsplit]; rfl)
  · rintro ⟨hfirst, hrest⟩ before i after hsplit
    cases before with
    | nil =>
      cases hsplit
      exact hfirst
    | cons b before =>
      cases hsplit
      rw [← hmove]
      exact hrest before i after rfl

/-- The items in front decide whether there is a server for those behind. -/
theorem safeFrom_append (present : Bool) (before items : List Item) :
    SafeFrom present (before ++ items) ↔
      SafeFrom present before ∧ SafeFrom (present || decide (.server ∈ before)) items := by
  induction before generalizing present with
  | nil => simp [safeFrom_nil]
  | cons b before ih =>
    have hpresent : ((present || decide (b = .server)) || decide (Item.server ∈ before)) =
        (present || decide (Item.server ∈ b :: before)) := by
      rw [Bool.or_assoc, ← Bool.decide_or]
      simp only [List.mem_cons, eq_comm (a := b)]
    rw [List.cons_append, safeFrom_cons, safeFrom_cons, ih, hpresent, and_assoc]

/-- How a part of the loops ends that comes to these items. -/
def Ends (x : Except Fault (Option RemoteServer)) (present : Bool) (items : List Item) : Prop :=
  (SafeFrom present items ∧ ∃ server, x = .ok server ∧
      server.isSome = (present || decide (.server ∈ items))) ∨
    (¬ SafeFrom present items ∧ ∃ fault, x = .error fault)

/-! ## The loops -/

/-- What comes first decides how the rest begins. -/
theorem Ends.bind {x : Except Fault (Option RemoteServer)}
    {f : Option RemoteServer → Except Fault (Option RemoteServer)} {present : Bool}
    {before items : List Item} (hx : Ends x present before)
    (hf : ∀ server : Option RemoteServer,
      server.isSome = (present || decide (.server ∈ before)) →
        Ends (f server) server.isSome items) :
    Ends (x >>= f) present (before ++ items) := by
  unfold Ends
  rw [safeFrom_append]
  rcases hx with ⟨hsafe, server, rfl, hsome⟩ | ⟨hbad, fault, rfl⟩
  · have hrest := hf server hsome
    rw [hsome] at hrest
    rcases hrest with ⟨hsafe', server', hok, hsome'⟩ | ⟨hbad', fault, herror⟩
    · refine .inl ⟨⟨hsafe, hsafe'⟩, server', hok, ?_⟩
      rw [hsome', Bool.or_assoc, ← Bool.decide_or]
      simp only [List.mem_append]
    · exact .inr ⟨fun h => hbad' h.2, fault, herror⟩
  · exact .inr ⟨fun h => hbad h.1, fault, rfl⟩

/-- Nothing is stored. -/
theorem ends_pure (server : Option RemoteServer) : Ends (pure server) server.isSome [] :=
  .inl ⟨safeFrom_nil _, server, rfl, by simp⟩

/-- A loop whose body comes to the items of each element. -/
theorem ends_foldlM {f : Option RemoteServer → Element → Except Fault (Option RemoteServer)}
    {items : Element → List Item} (h : ∀ server e, Ends (f server e) server.isSome (items e))
    (es : List Element) (server : Option RemoteServer) :
    Ends (es.foldlM f server) server.isSome (es.flatMap items) := by
  induction es generalizing server with
  | nil => exact ends_pure server
  | cons e es ih =>
    rw [List.foldlM_cons, List.flatMap_cons]
    exact (h server e).bind fun server' _ => ih server'

/-- The identifier goes to the server. -/
theorem ends_appendUuid (server : Option RemoteServer) (content : List UInt8) :
    Ends (appendUuid server content) server.isSome [.uuid] := by
  unfold Ends
  rw [safeFrom_cons]
  cases server with
  | none =>
    refine .inr ⟨?_, .nullPointer, rfl⟩
    simp [Item.Storable]
  | some server =>
    refine .inl ⟨⟨.inl rfl, safeFrom_nil _⟩, _, rfl, ?_⟩
    simp

/-- An address goes to one of the three services of the server. -/
theorem ends_appendUrl (server : Option RemoteServer) (type : ℕ) (url : Url)
    (content : List UInt8) :
    Ends (appendUrl server type url content) server.isSome [.url (type < 3) content] := by
  unfold Ends
  rw [safeFrom_cons]
  cases server with
  | none =>
    refine .inr ⟨?_, .nullPointer, rfl⟩
    simp [Item.Storable]
  | some server =>
    by_cases hcontent : content = []
    · refine .inl ⟨⟨⟨.inl rfl, fun _ => hcontent⟩, safeFrom_nil _⟩, some server, ?_, by simp⟩
      show (if content = [] then pure (some server) else _) = _
      rw [if_pos hcontent]
      rfl
    · by_cases htype : type < 3
      · obtain ⟨stored, hstored⟩ : ∃ stored,
            appendUrl (some server) type url content = .ok (some stored) := by
          show ∃ stored, (if content = [] then pure (some server) else _) = _
          rw [if_neg hcontent, dif_pos htype]
          exact ⟨_, rfl⟩
        refine .inl ⟨⟨⟨.inl rfl, fun hknown => ?_⟩, safeFrom_nil _⟩, some stored, hstored, by simp⟩
        exact absurd htype (of_decide_eq_false hknown)
      · refine .inr ⟨?_, .outsideArray, ?_⟩
        · intro h
          exact hcontent (h.1.2 (decide_eq_false htype))
        · show (if content = [] then pure (some server) else _) = _
          rw [if_neg hcontent, dif_neg htype]
          rfl

/-- A service has a place exactly if its type is one of three, or an earlier one was. -/
theorem serviceTypeOf_lt (stype : List UInt8) (type : ℕ) :
    serviceTypeOf stype type < 3 ↔
      type < 3 ∨ stype = ascii "urn:schemas-upnp-org:service:TmApplicationServer:1" ∨
        stype = ascii "urn:schemas-upnp-org:service:TmClientProfile:1" ∨
          stype = ascii "urn:schemas-upnp-org:service:TmNotificationServer:1" := by
  unfold serviceTypeOf
  split_ifs with h0 h1 h2
  · simp [h0]
  · simp [h1]
  · simp [h2]
  · simp [h0, h1, h2]

/-- A `serviceType` gives no item: it chooses the index. -/
theorem serviceItems_serviceType {c4 : Element} (type : ℕ) (cs : List Element)
    (htype : c4.name = ascii "serviceType") :
    serviceItems (type < 3) (c4 :: cs) = serviceItems (serviceTypeOf c4.content type < 3) cs := by
  have hisUrl : ¬ IsUrl c4 := by
    unfold IsUrl
    rw [htype]
    decide
  have hlt : (decide (type < 3) || decide (IsKnownType c4)) =
      decide (serviceTypeOf c4.content type < 3) := by
    rw [← Bool.decide_or]
    simp only [IsKnownType, htype, true_and, serviceTypeOf_lt]
  rw [serviceItems, if_neg hisUrl, hlt, List.nil_append]

/-- Every other element leaves the index. -/
theorem serviceItems_of_ne {c4 : Element} (known : Bool) (cs : List Element)
    (htype : c4.name ≠ ascii "serviceType") :
    serviceItems known (c4 :: cs) =
      (if IsUrl c4 then [.url known c4.content] else []) ++ serviceItems known cs := by
  have hknown : ¬ IsKnownType c4 := fun h => htype h.1
  rw [serviceItems, decide_eq_false hknown, Bool.or_false]

/-- **A service.**  The index is below 3 from the first known `serviceType` on. -/
theorem ends_service (cs : List Element) (server : Option RemoteServer) (type : ℕ) :
    Ends (cs.foldlM serviceChild (server, type) >>= fun s => pure s.1) server.isSome
      (serviceItems (type < 3) cs) := by
  induction cs generalizing server type with
  | nil => exact ends_pure server
  | cons c4 cs ih =>
    have hurl : ∀ url, IsUrl c4 → c4.name ≠ ascii "serviceType" →
        serviceChild (server, type) c4 =
          (appendUrl server type url c4.content >>= fun server => pure (server, type)) →
        Ends ((c4 :: cs).foldlM serviceChild (server, type) >>= fun s => pure s.1) server.isSome
          (serviceItems (type < 3) (c4 :: cs)) := by
      intro url hisUrl hname hchild
      rw [List.foldlM_cons, hchild, serviceItems_of_ne _ cs hname, if_pos hisUrl, bind_assoc,
        bind_assoc]
      refine (ends_appendUrl server type url c4.content).bind ?_
      intro server' _
      exact ih server' type
    by_cases htype : c4.name = ascii "serviceType"
    · have hchild : serviceChild (server, type) c4 =
          pure (server, serviceTypeOf c4.content type) := by
        rw [serviceChild, if_pos htype]
      rw [List.foldlM_cons, hchild, serviceItems_serviceType type cs htype, pure_bind]
      exact ih server (serviceTypeOf c4.content type)
    · by_cases hscpd : c4.name = ascii "SCPDURL"
      · refine hurl .surl (.inl hscpd) htype ?_
        rw [serviceChild, if_neg htype, if_pos hscpd]
      · by_cases hcontrol : c4.name = ascii "controlURL"
        · refine hurl .curl (.inr (.inl hcontrol)) htype ?_
          rw [serviceChild, if_neg htype, if_neg hscpd, if_pos hcontrol]
        · by_cases hevent : c4.name = ascii "eventSubURL"
          · refine hurl .eurl (.inr (.inr hevent)) htype ?_
            rw [serviceChild, if_neg htype, if_neg hscpd, if_neg hcontrol, if_pos hevent]
          · have hisUrl : ¬ IsUrl c4 := by
              rintro (h | h | h)
              · exact hscpd h
              · exact hcontrol h
              · exact hevent h
            have hchild : serviceChild (server, type) c4 = pure (server, type) := by
              rw [serviceChild, if_neg htype, if_neg hscpd, if_neg hcontrol, if_neg hevent]
            rw [List.foldlM_cons, hchild, serviceItems_of_ne _ cs htype, if_neg hisUrl, pure_bind]
            exact ih server type

/-- A service stores its items. -/
theorem ends_serviceListChild (server : Option RemoteServer) (c3 : Element) :
    Ends (serviceListChild server c3) server.isSome (serviceListItems c3) := by
  unfold serviceListChild serviceListItems
  by_cases hname : c3.name = ascii "service"
  · rw [if_pos hname, if_pos hname]
    exact ends_service c3.children server 3
  · rw [if_neg hname, if_neg hname]
    exact ends_pure server

/-- A child of the device stores its items. -/
theorem ends_deviceChild (ip : List UInt8) (port : UInt16) (server : Option RemoteServer)
    (c2 : Element) :
    Ends (deviceChild ip port server c2) server.isSome (deviceItems c2) := by
  unfold deviceChild deviceItems
  split_ifs
  · refine .inl ⟨?_, _, rfl, by simp⟩
    rw [safeFrom_cons]
    exact ⟨trivial, safeFrom_nil _⟩
  · exact ends_appendUuid server c2.content
  · exact ends_foldlM ends_serviceListChild c2.children server
  · exact ends_pure server

/-- A child of the description stores its items. -/
theorem ends_rootChild (ip : List UInt8) (port : UInt16) (server : Option RemoteServer)
    (c1 : Element) : Ends (rootChild ip port server c1) server.isSome (rootItems c1) := by
  unfold rootChild rootItems
  by_cases hname : c1.name = ascii "device"
  · rw [if_pos hname, if_pos hname]
    exact ends_foldlM (ends_deviceChild ip port) c1.children server
  · rw [if_neg hname, if_neg hname]
    exact ends_pure server

/-! ## Documents -/

/-- In document order, every `UDN` comes after a `deviceType` that names the device, and so
does every address of a service, which comes after a known `serviceType` of its service if it
is not empty. -/
def InOrder (root : Option Element) : Prop := SafeFrom false (descriptionItems root)

/-- **A description stores its items**, from a null server on. -/
theorem ends_description (ip : List UInt8) (port : UInt16) (root : Option Element) :
    Ends ((elementChildren root).foldlM (rootChild ip port) none) false (descriptionItems root) :=
  ends_foldlM (ends_rootChild ip port) (elementChildren root) none

/-- Once the exchange has ended, nothing is stored through a null pointer or at an index that
`sinfo` does not have. -/
def CreatesSafely (parse : Option (List UInt8) → Option Element) (ip : List UInt8)
    (port : UInt16) (path : List UInt8) (reply : Reply) : Prop :=
  ∀ rp, httpExchange ip port (httpClientMakeReq (ascii "GET") path) reply = .ok rp →
    ∃ server, remoteServerCreate parse ip port path reply = .ok server

/-- **Descriptions of a device.**  A description is taken apart safely exactly if it is in
order. -/
theorem description_safe_iff (parse : Option (List UInt8) → Option Element) (ip : List UInt8)
    (port : UInt16) (path : List UInt8) (reply : Reply) :
    CreatesSafely parse ip port path reply ↔
      ∀ rsp, httpExchange ip port (httpClientMakeReq (ascii "GET") path) reply = .ok (some rsp) →
        rsp.errcode = 200 → InOrder (parse rsp.body) := by
  have hcreate : ∀ rp, httpExchange ip port (httpClientMakeReq (ascii "GET") path) reply = .ok rp →
      remoteServerCreate parse ip port path reply =
        describe parse ip port rp := by
    intro rp hrp
    rw [remoteServerCreate, hrp]
    rfl
  constructor
  · intro hsafe rsp hrsp hcode
    obtain ⟨server, hserver⟩ := hsafe _ hrsp
    rw [hcreate _ hrsp, describe, if_pos hcode] at hserver
    rcases ends_description ip port (parse rsp.body) with ⟨horder, -⟩ | ⟨-, fault, herror⟩
    · exact horder
    · rw [herror] at hserver
      cases hserver
  · intro horder rp hrp
    rw [hcreate rp hrp]
    cases rp with
    | none => exact ⟨none, rfl⟩
    | some rsp =>
      rw [describe]
      by_cases hcode : rsp.errcode = 200
      · rw [if_pos hcode]
        rcases ends_description ip port (parse rsp.body) with ⟨-, server, hok, -⟩ | ⟨hbad, -⟩
        · exact ⟨server, hok⟩
        · exact absurd (horder rsp hrp hcode) hbad
      · rw [if_neg hcode]
        exact ⟨none, rfl⟩

/-- A device that gives its `UDN` and no `deviceType`. -/
def untypedDevice : Element :=
  .mk (ascii "root") (ascii "uuid:1")
    [.mk (ascii "device") (ascii "uuid:1") [.mk (ascii "UDN") (ascii "uuid:1") []]]

/-- Not every description can be stored. -/
theorem description_safe_fails :
    ¬ ∀ (parse : Option (List UInt8) → Option Element) (ip : List UInt8) (port : UInt16)
      (path : List UInt8) (reply : Reply), CreatesSafely parse ip port path reply := by
  intro h
  obtain ⟨server, hserver⟩ := h (fun _ => some untypedDevice) (ascii "192.168.42.129") 8080
    (ascii "/d.xml")
    (.answered (some ⟨⟨200, some (ascii "<root><device><UDN>uuid:1</UDN></device></root>")⟩,
      by decide⟩)) _ rfl
  cases hserver

end MirrorLink.Analysis
