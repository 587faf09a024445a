import MirrorLink.Analysis.Stores

/-!
# The texts of a description

What a description stores, by the elements it is made of: one server for the device that is
one (`stores_eq_of_inOrder`), the texts of all `UDN`s (`uuidText_stores`), and for each type
and address what the services of that type say, provided that their addresses come in order
(`urlText_stores_of_safe`).  A server that holds these texts holds what the description says,
unless another device has given its `UDN` too (`described_iff`).
-/

set_option autoImplicit false

namespace MirrorLink.Analysis

open MirrorLink.Library MirrorLink.Program

/-! ## The texts of a description -/

/-- A loop over the elements of one name. -/
theorem flatMap_named {β : Type} (name : List UInt8) (e : Element) (f : Element → List β) :
    (e.named name).flatMap f = e.children.flatMap fun c => if c.name = name then f c else [] := by
  unfold Element.named
  induction e.children with
  | nil => rfl
  | cons c cs ih =>
    rw [List.flatMap_cons, ← ih, List.filter_cons]
    by_cases hc : c.name = name <;> simp [hc]

/-- The texts of the children of one name, one behind the other. -/
def textAt (name : List UInt8) (e : Element) : List UInt8 :=
  (e.named name).flatMap Element.content

/-- With at most one such child that is its text. -/
theorem hasText_of_unique {e : Element} {name : List UInt8} (h : (e.named name).length ≤ 1)
    (text : Option (List UInt8)) :
    HasText e name text ↔ text = strAppend none (textAt name e) := by
  have hmem : ∀ c, c ∈ e.named name ↔ c ∈ e.children ∧ c.name = name := by
    intro c
    simp [Element.named]
  have hspec : HasText e name text ↔ (∀ c ∈ e.named name, text = strAppend none c.content) ∧
      (e.named name = [] → text = none) := by
    unfold HasText
    refine and_congr ⟨fun hc c hin => ?_, fun hc c hin hname => ?_⟩
      (imp_congr_left ⟨fun hc => ?_, fun hc c hin hname => ?_⟩)
    · exact hc c ((hmem c).mp hin).1 ((hmem c).mp hin).2
    · exact hc c ((hmem c).mpr ⟨hin, hname⟩)
    · exact List.filter_eq_nil_iff.mpr fun c hin => by simpa using hc c hin
    · have hin' := (hmem c).mpr ⟨hin, hname⟩
      rw [hc] at hin'
      cases hin'
  rw [hspec, textAt]
  clear hspec hmem
  generalize e.named name = cs at h ⊢
  rcases cs with _ | ⟨c, _ | ⟨c', cs⟩⟩
  · simp [strAppend]
  · simp
  · simp at h

/-! ## The stores of a device -/

/-- A service makes no server. -/
theorem server_notMem_serviceStores (type : ℕ) (cs : List Element) :
    .server ∉ serviceStores type cs := by
  induction cs generalizing type with
  | nil => simp [serviceStores]
  | cons c4 cs ih =>
    rw [serviceStores]
    split_ifs
    · exact ih _
    · rw [List.mem_append, not_or]
      refine ⟨?_, ih type⟩
      cases urlNamed c4.name <;> simp

/-- A child of the device makes the server if it is the type of one. -/
theorem server_mem_deviceStores (c2 : Element) :
    (deviceStores c2).count .server =
      if c2.name = ascii "deviceType" ∧
        c2.content = ascii "urn:schemas-upnp-org:device:TmServerDevice:1" then 1 else 0 := by
  have hlist : .server ∉ c2.children.flatMap serviceListStores := by
    simp only [List.mem_flatMap, not_exists, not_and]
    intro c3 _
    unfold serviceListStores
    split_ifs
    · exact server_notMem_serviceStores 3 c3.children
    · simp
  unfold deviceStores
  split_ifs
  · rfl
  · rfl
  · exact List.count_eq_zero.mpr hlist
  · rfl

/-- A device makes one server, if it is one. -/
theorem count_server_device (d : Element) (h : (d.named (ascii "deviceType")).length ≤ 1) :
    (d.children.flatMap deviceStores).count .server = if IsServerDevice d then 1 else 0 := by
  have hcount : (d.children.flatMap deviceStores).count .server = d.children.countP fun c =>
      c.name = ascii "deviceType" ∧
        c.content = ascii "urn:schemas-upnp-org:device:TmServerDevice:1" := by
    induction d.children with
    | nil => rfl
    | cons c cs ih =>
      rw [List.flatMap_cons, List.count_append, ih, server_mem_deviceStores, List.countP_cons,
        Nat.add_comm]
      simp only [decide_eq_true_eq]
  have hle : (d.children.countP fun c => c.name = ascii "deviceType" ∧
      c.content = ascii "urn:schemas-upnp-org:device:TmServerDevice:1") ≤ 1 := by
    refine le_trans (List.countP_mono_left ?_) (List.countP_eq_length_filter.trans_le h)
    intro c _ hc
    simp only [decide_eq_true_eq] at hc ⊢
    exact hc.1
  rw [hcount]
  split_ifs with hserver
  · have hpos : 0 < d.children.countP fun c => c.name = ascii "deviceType" ∧
        c.content = ascii "urn:schemas-upnp-org:device:TmServerDevice:1" := by
      obtain ⟨c, hin, hc⟩ := hserver
      exact List.countP_pos_iff.mpr ⟨c, hin, by simpa using hc⟩
    omega
  · rw [List.countP_eq_zero]
    intro c hin hc
    exact hserver ⟨c, hin, by simpa using hc⟩

/-- The description makes one server. -/
theorem count_server_stores {root : Element} (h : WellFormed root) :
    (stores root).count .server = 1 := by
  have hdevice : ∀ d ∈ root.named (ascii "device"),
      (d.children.flatMap deviceStores).count .server = if IsServerDevice d then 1 else 0 :=
    fun d hd => count_server_device d (h.device_children d hd _ List.mem_cons_self)
  have hstores : stores root =
      (root.named (ascii "device")).flatMap fun d => d.children.flatMap deviceStores := by
    rw [flatMap_named]
    rfl
  have hone := h.one_server
  rw [devices] at hone
  rw [hstores, ← hone]
  clear hone hstores
  generalize root.named (ascii "device") = ds at hdevice ⊢
  induction ds with
  | nil => rfl
  | cons d ds ih =>
    rw [List.flatMap_cons, List.count_append, hdevice d List.mem_cons_self,
      ih fun d' hd' => hdevice d' (List.mem_cons_of_mem _ hd'), List.filter_cons]
    by_cases hd : IsServerDevice d
    · simp [hd, Nat.add_comm]
    · simp [hd]

/-- In order, everything is stored behind the server. -/
theorem stores_eq_of_inOrder {root : Element} (h : WellFormed root)
    (horder : InOrder (some root)) :
    ∃ es, stores root = .server :: es ∧ .server ∉ es := by
  have hcount := count_server_stores h
  rw [InOrder, ← map_item_stores] at horder
  cases hes : stores root with
  | nil =>
    rw [hes] at hcount
    cases hcount
  | cons e es =>
    rw [hes, List.map_cons, safeFrom_cons] at horder
    have hserver : e = .server := by
      have hfirst := horder.1
      cases e with
      | server => rfl
      | uuid content => simp [Store.item, Item.Storable] at hfirst
      | url type member content => simp [Store.item, Item.Storable] at hfirst
    rw [hes, hserver, List.count_cons_self] at hcount
    exact ⟨es, by rw [hserver], List.count_eq_zero.mp (by omega)⟩

/-! ## What is stored in `uuid` -/

/-- The texts of a child of a device, for any member that `deviceType` does not write. -/
theorem flatMap_deviceStores {f : Store → List UInt8} (hf : f .server = []) (c2 : Element) :
    (deviceStores c2).flatMap f =
      if c2.name = ascii "UDN" then f (.uuid c2.content)
      else if c2.name = ascii "serviceList" then (c2.children.flatMap serviceListStores).flatMap f
      else [] := by
  have hudn : ascii "deviceType" ≠ ascii "UDN" := by decide
  have hlist : ascii "deviceType" ≠ ascii "serviceList" := by decide
  unfold deviceStores
  by_cases hserver : c2.name = ascii "deviceType" ∧
      c2.content = ascii "urn:schemas-upnp-org:device:TmServerDevice:1"
  · rw [if_pos hserver, hserver.1, if_neg hudn, if_neg hlist]
    simp [hf]
  · rw [if_neg hserver]
    split_ifs
    · simp
    · rfl
    · rfl

/-- A service stores no identifier. -/
theorem uuidText_serviceStores (type : ℕ) (cs : List Element) :
    (serviceStores type cs).flatMap Store.uuidText = [] := by
  induction cs generalizing type with
  | nil => rfl
  | cons c4 cs ih =>
    rw [serviceStores]
    split_ifs
    · exact ih _
    · rw [List.flatMap_append, ih, List.append_nil]
      cases urlNamed c4.name <;> rfl

/-- The identifier is the content of `UDN`. -/
theorem uuidText_deviceStores (c2 : Element) :
    (deviceStores c2).flatMap Store.uuidText =
      if c2.name = ascii "UDN" then c2.content else [] := by
  have hlist : (c2.children.flatMap serviceListStores).flatMap Store.uuidText = [] := by
    rw [List.flatMap_assoc, List.flatMap_eq_nil_iff]
    intro c3 _
    unfold serviceListStores
    split_ifs
    · exact uuidText_serviceStores 3 c3.children
    · rfl
  rw [flatMap_deviceStores rfl, hlist, ite_self]
  rfl

/-- The texts of all `UDN`s. -/
theorem uuidText_stores (root : Element) :
    (stores root).flatMap Store.uuidText = (devices root).flatMap (textAt (ascii "UDN")) := by
  have hdevice : ∀ d : Element,
      (d.children.flatMap deviceStores).flatMap Store.uuidText = textAt (ascii "UDN") d := by
    intro d
    rw [List.flatMap_assoc, textAt, flatMap_named]
    simp only [uuidText_deviceStores]
  rw [devices, flatMap_named, stores, List.flatMap_assoc]
  congr 1
  funext c1
  unfold rootStores
  split_ifs
  · exact hdevice c1
  · rfl

/-! ## What is stored in the members of a service -/

/-- The addresses are those of the list of services. -/
theorem urlText_deviceStores (k : ℕ) (u : Url) (c2 : Element) :
    (deviceStores c2).flatMap (Store.urlText k u) =
      if c2.name = ascii "serviceList" then
        (c2.children.flatMap serviceListStores).flatMap (Store.urlText k u)
      else [] := by
  have hudn : ascii "UDN" ≠ ascii "serviceList" := by decide
  rw [flatMap_deviceStores rfl]
  by_cases huuid : c2.name = ascii "UDN"
  · rw [if_pos huuid, huuid, if_neg hudn]
    rfl
  · rw [if_neg huuid]

/-- Only services store addresses. -/
theorem urlText_stores (k : ℕ) (u : Url) (root : Element) :
    (stores root).flatMap (Store.urlText k u) =
      (services root).flatMap fun s =>
        (serviceStores 3 s.children).flatMap (Store.urlText k u) := by
  have hlist : ∀ c2 : Element, (c2.children.flatMap serviceListStores).flatMap (Store.urlText k u) =
      (c2.named (ascii "service")).flatMap fun s =>
        (serviceStores 3 s.children).flatMap (Store.urlText k u) := by
    intro c2
    rw [List.flatMap_assoc, flatMap_named]
    congr 1
    funext c3
    unfold serviceListStores
    split_ifs <;> rfl
  have hdevice : ∀ d : Element, (d.children.flatMap deviceStores).flatMap (Store.urlText k u) =
      (deviceServices d).flatMap fun s =>
        (serviceStores 3 s.children).flatMap (Store.urlText k u) := by
    intro d
    rw [List.flatMap_assoc, deviceServices, List.flatMap_assoc, flatMap_named]
    congr 1
    funext c2
    rw [urlText_deviceStores, hlist]
  rw [services, List.flatMap_assoc, devices, flatMap_named, stores, List.flatMap_assoc]
  congr 1
  funext c1
  unfold rootStores
  split_ifs
  · exact hdevice c1
  · rfl

/-! ## A service -/

/-- Until a type is read, addresses go where the last type was. -/
theorem urlText_serviceStores_of_untyped (k : ℕ) (u : Url) (type : ℕ) (cs : List Element)
    (h : ∀ c ∈ cs, c.name ≠ ascii "serviceType") :
    (serviceStores type cs).flatMap (Store.urlText k u) =
      if type = k then (cs.filter fun c => c.name = u.elementName).flatMap Element.content
      else [] := by
  induction cs with
  | nil => simp [serviceStores]
  | cons c4 cs ih =>
    have hrest := ih fun c hc => h c (List.mem_cons_of_mem _ hc)
    rw [serviceStores, if_neg (h c4 List.mem_cons_self), List.flatMap_append, hrest,
      List.filter_cons]
    cases hnamed : urlNamed c4.name with
    | none =>
      have hname : c4.name ≠ u.elementName := (urlNamed_eq_none_iff _).mp hnamed u
      simp [hname]
    | some m =>
      have hname := (urlNamed_eq_some_iff _ _).mp hnamed
      by_cases hk : type = k
      · by_cases hu : m = u
        · subst hu
          simp [hname, hk, Store.urlText]
        · have hne : c4.name ≠ u.elementName := by
            intro heq
            rw [(urlNamed_eq_some_iff _ _).mpr heq, Option.some.injEq] at hnamed
            exact hu hnamed.symm
          simp [hne, hk, hu, Store.urlText]
      · simp [hk, Store.urlText]

/-- The first type divides the addresses of a service. -/
theorem serviceStores_append_of_untyped (type : ℕ) (cs : List Element) (c : Element)
    (rest : List Element) (h : ∀ c ∈ cs, c.name ≠ ascii "serviceType")
    (hc : c.name = ascii "serviceType") :
    serviceStores type (cs ++ c :: rest) =
      serviceStores type cs ++ serviceStores (serviceTypeOf c.content type) rest := by
  induction cs with
  | nil => simp [serviceStores, hc]
  | cons c4 cs ih =>
    rw [List.cons_append, serviceStores, serviceStores, if_neg (h c4 List.mem_cons_self),
      if_neg (h c4 List.mem_cons_self), ih fun c hc => h c (List.mem_cons_of_mem _ hc),
      List.append_assoc]

/-- The place of a service is that of its type's name. -/
theorem serviceTypeOf_eq_iff (stype : List UInt8) (k : Fin 3) :
    serviceTypeOf stype 3 = k ↔ stype = serviceTypeName k := by
  have h10 : ascii "urn:schemas-upnp-org:service:TmClientProfile:1" ≠
      ascii "urn:schemas-upnp-org:service:TmApplicationServer:1" := by decide +kernel
  have h20 : ascii "urn:schemas-upnp-org:service:TmNotificationServer:1" ≠
      ascii "urn:schemas-upnp-org:service:TmApplicationServer:1" := by decide +kernel
  have h21 : ascii "urn:schemas-upnp-org:service:TmNotificationServer:1" ≠
      ascii "urn:schemas-upnp-org:service:TmClientProfile:1" := by decide +kernel
  have hk := k.isLt
  unfold serviceTypeOf serviceTypeName
  generalize ascii "urn:schemas-upnp-org:service:TmApplicationServer:1" = app at *
  generalize ascii "urn:schemas-upnp-org:service:TmClientProfile:1" = profile at *
  generalize ascii "urn:schemas-upnp-org:service:TmNotificationServer:1" = notification at *
  constructor
  · intro h
    split_ifs at h ⊢ <;> first | assumption | omega
  · rintro rfl
    by_cases h0 : k.val = 0
    · rw [if_pos h0, if_pos rfl, h0]
    · rw [if_neg h0]
      by_cases h1 : k.val = 1
      · rw [if_pos h1, if_neg h10, if_pos rfl, h1]
      · rw [if_neg h1, if_neg h20, if_neg h21, if_pos rfl]
        omega

/-- **A service.**  If its addresses come in order, it stores them under its type. -/
theorem urlText_service {s : Element} (h : (s.named (ascii "serviceType")).length ≤ 1)
    (hsafe : ∀ type m content, Store.url type m content ∈ serviceStores 3 s.children →
      type < 3 ∨ content = []) (k : Fin 3) (u : Url) :
    (serviceStores 3 s.children).flatMap (Store.urlText k u) =
      if NamesType k s then textAt u.elementName s else [] := by
  by_cases htyped : ∃ c ∈ s.children, c.name = ascii "serviceType"
  · obtain ⟨c, hin, hc⟩ := htyped
    obtain ⟨before, after, hsplit⟩ := List.append_of_mem hin
    have hnamed : (before.filter fun c => c.name = ascii "serviceType") = [] ∧
        (after.filter fun c => c.name = ascii "serviceType") = [] := by
      rw [Element.named, hsplit, List.filter_append, List.filter_cons_of_pos (by simpa using hc),
        List.length_append, List.length_cons] at h
      exact ⟨List.eq_nil_of_length_eq_zero (by omega), List.eq_nil_of_length_eq_zero (by omega)⟩
    have hbefore : ∀ b ∈ before, b.name ≠ ascii "serviceType" := fun b hb => by
      simpa using List.filter_eq_nil_iff.mp hnamed.1 b hb
    have hafter : ∀ a ∈ after, a.name ≠ ascii "serviceType" := fun a ha => by
      simpa using List.filter_eq_nil_iff.mp hnamed.2 a ha
    have hnames : NamesType k s ↔ serviceTypeOf c.content 3 = k := by
      rw [serviceTypeOf_eq_iff, NamesType, hsplit]
      constructor
      · rintro ⟨c', hin', hname', hcontent'⟩
        rcases List.mem_append.mp hin' with hb | hb
        · exact absurd hname' (hbefore c' hb)
        · rcases List.mem_cons.mp hb with rfl | ha
          · exact hcontent'
          · exact absurd hname' (hafter c' ha)
      · exact fun hcontent => ⟨c, by simp, hc, hcontent⟩
    rw [hsplit, serviceStores_append_of_untyped 3 before c after hbefore hc] at hsafe ⊢
    rw [List.flatMap_append, urlText_serviceStores_of_untyped k u 3 before hbefore,
      urlText_serviceStores_of_untyped k u _ after hafter, if_neg (by omega), List.nil_append]
    simp only [hnames]
    split_ifs with htype
    · -- what comes before the type has no text
      have hempty :
          (before.filter fun b => b.name = u.elementName).flatMap Element.content = [] := by
        have htexts := urlText_serviceStores_of_untyped 3 u 3 before hbefore
        rw [if_pos rfl] at htexts
        rw [← htexts, List.flatMap_eq_nil_iff]
        intro e he
        cases e with
        | server => rfl
        | uuid content => rfl
        | url type m content =>
          rw [Store.urlText]
          rcases hsafe type m content (List.mem_append_left _ he) with hlt | hcontent
          · rw [if_neg fun h3 => by omega]
          · rw [hcontent, ite_self]
      rw [textAt, Element.named, hsplit, List.filter_append, List.flatMap_append, hempty,
        List.nil_append, List.filter_cons_of_neg]
      simpa [hc] using serviceType_ne_elementName u
    · rfl
  · have hnone : ∀ c ∈ s.children, c.name ≠ ascii "serviceType" :=
      fun c hin hc => htyped ⟨c, hin, hc⟩
    have hunnamed : ¬ NamesType k s := by
      rintro ⟨c, hin, hc, -⟩
      exact hnone c hin hc
    rw [urlText_serviceStores_of_untyped k u 3 _ hnone, if_neg (by omega), if_neg hunnamed]

/-- What a service stores is stored. -/
theorem mem_stores_of_service {root s : Element} (hs : s ∈ services root) {e : Store}
    (he : e ∈ serviceStores 3 s.children) : e ∈ stores root := by
  simp only [services, deviceServices, devices, Element.named, List.mem_flatMap, List.mem_filter,
    decide_eq_true_eq] at hs
  obtain ⟨d, ⟨hd, hdname⟩, l, ⟨hl, hlname⟩, hin, hname⟩ := hs
  have htype : ascii "serviceList" ≠ ascii "deviceType" := by decide
  have hudn : ascii "serviceList" ≠ ascii "UDN" := by decide
  refine List.mem_flatMap.mpr ⟨d, hd, ?_⟩
  rw [rootStores, if_pos hdname]
  refine List.mem_flatMap.mpr ⟨l, hl, ?_⟩
  rw [deviceStores, hlname, if_neg fun h => htype h.1, if_neg hudn, if_pos rfl]
  refine List.mem_flatMap.mpr ⟨s, hin, ?_⟩
  rwa [serviceListStores, if_pos hname]

/-! ## One element among several -/

/-- With one element that satisfies `p`, only that one may contribute. -/
theorem flatMap_eq_one_iff {α β : Type} {p : α → Prop} [DecidablePred p] {l : List α} {a : α}
    (hone : (l.filter fun b => p b).length = 1) (hin : a ∈ l) (ha : p a) (f : α → List β) :
    l.flatMap f = f a ↔ ∀ b ∈ l, ¬ p b → f b = [] := by
  obtain ⟨before, after, rfl⟩ := List.append_of_mem hin
  rw [List.filter_append, List.filter_cons_of_pos (by simpa using ha), List.length_append,
    List.length_cons] at hone
  have hbefore := List.filter_eq_nil_iff.mp
    (List.eq_nil_of_length_eq_zero (l := before.filter fun b => p b) (by omega))
  have hafter := List.filter_eq_nil_iff.mp
    (List.eq_nil_of_length_eq_zero (l := after.filter fun b => p b) (by omega))
  simp only [decide_eq_true_eq] at hbefore hafter
  have hnil : (before ++ a :: after).flatMap f = f a ↔
      before.flatMap f = [] ∧ after.flatMap f = [] := by
    rw [List.flatMap_append, List.flatMap_cons]
    constructor
    · intro h
      have hlength := congrArg List.length h
      simp only [List.length_append] at hlength
      exact ⟨List.eq_nil_of_length_eq_zero (by omega), List.eq_nil_of_length_eq_zero (by omega)⟩
    · rintro ⟨hb, ha⟩
      rw [hb, ha, List.nil_append, List.append_nil]
  rw [hnil, List.flatMap_eq_nil_iff, List.flatMap_eq_nil_iff]
  constructor
  · rintro ⟨hb, ha'⟩ b hbin hnot
    rcases List.mem_append.mp hbin with hmem | hmem
    · exact hb b hmem
    · rcases List.mem_cons.mp hmem with rfl | hmem
      · exact absurd ha hnot
      · exact ha' b hmem
  · intro h
    exact ⟨fun b hb => h b (by simp [hb]) (hbefore b hb),
      fun b hb => h b (by simp [hb]) (hafter b hb)⟩

/-- Text from some elements is text from those that are kept. -/
theorem flatMap_ite_eq_filter {α β : Type} (p : α → Prop) [DecidablePred p] (l : List α)
    (f : α → List β) : (l.flatMap fun a => if p a then f a else []) =
      (l.filter fun a => p a).flatMap f := by
  induction l with
  | nil => rfl
  | cons a l ih =>
    rw [List.flatMap_cons, ih, List.filter_cons]
    by_cases ha : p a <;> simp [ha]

/-! ## What a server made from a description holds -/

/-- The texts of the services of a type. -/
theorem urlText_stores_of_safe {root : Element} (h : WellFormed root)
    (hsafe : ∀ type m content, Store.url type m content ∈ stores root → type < 3 ∨ content = [])
    (k : Fin 3) (u : Url) :
    (stores root).flatMap (Store.urlText k u) =
      ((services root).filter fun s => NamesType k s).flatMap (textAt u.elementName) := by
  rw [urlText_stores, ← flatMap_ite_eq_filter]
  refine List.flatMap_congr fun s hs => ?_
  exact urlText_service (h.service_children s hs _ List.mem_cons_self)
    (fun type m content he => hsafe type m content (mem_stores_of_service hs he)) k u

/-- No other device has a text for `uuid`. -/
def OnlyServerNamed (root : Element) : Prop :=
  ∀ d ∈ devices root, ¬ IsServerDevice d → HasText d (ascii "UDN") none

/-- The elements of a service that are read. -/
theorem elementName_mem (u : Url) : u.elementName ∈
    [ascii "serviceType", ascii "SCPDURL", ascii "controlURL", ascii "eventSubURL"] := by
  cases u <;> simp [Url.elementName]

/-- A server that holds the texts of the description in order holds what it says, unless
another device has given its `UDN` too. -/
theorem described_iff {root : Element} (h : WellFormed root) {t : RemoteServer}
    (huuid : t.uuid = strAppend none ((stores root).flatMap Store.uuidText))
    (hurl : ∀ (k : Fin 3) (u : Url),
      (t.sinfo k).member u = strAppend none ((stores root).flatMap (Store.urlText k u)))
    (hsafe : ∀ type m content, Store.url type m content ∈ stores root → type < 3 ∨ content = []) :
    Described root t ↔ OnlyServerNamed root := by
  have hudn : ∀ d ∈ devices root, (d.named (ascii "UDN")).length ≤ 1 :=
    fun d hd => h.device_children d hd _ (by simp)
  have hothers : OnlyServerNamed root ↔
      ∀ d ∈ devices root, ¬ IsServerDevice d → textAt (ascii "UDN") d = [] := by
    refine forall₂_congr fun d hd => imp_congr_right fun _ => ?_
    rw [hasText_of_unique (hudn d hd)]
    exact ⟨fun hnone => strAppend_none_inj hnone.symm, fun hnil => by rw [hnil]; rfl⟩
  rw [hothers]
  obtain ⟨d₀, hd₀⟩ := List.length_eq_one_iff.mp h.one_server
  have hmem : d₀ ∈ (devices root).filter fun d => IsServerDevice d := by simp [hd₀]
  rw [List.mem_filter, decide_eq_true_eq] at hmem
  rw [← flatMap_eq_one_iff h.one_server hmem.1 hmem.2 (textAt (ascii "UDN")), ← uuidText_stores]
  constructor
  · intro hdescribed
    have htext := hdescribed.uuid d₀ hmem.1 hmem.2
    rw [hasText_of_unique (hudn d₀ hmem.1), huuid] at htext
    exact strAppend_none_inj htext
  · intro htext
    refine ⟨fun d hd hserver => ?_, fun k s hs hnames u => ?_, fun k hnone u => ?_⟩
    · have hd' : d ∈ (devices root).filter fun d => IsServerDevice d := by
        rw [List.mem_filter, decide_eq_true_eq]
        exact ⟨hd, hserver⟩
      rw [hd₀, List.mem_singleton] at hd'
      rw [hd', hasText_of_unique (hudn d₀ hmem.1), huuid, htext]
    · have hs' : s ∈ (services root).filter fun s => NamesType k s := by
        rw [List.mem_filter, decide_eq_true_eq]
        exact ⟨hs, hnames⟩
      have hlength : ((services root).filter fun s => NamesType k s).length = 1 :=
        le_antisymm (h.one_service k) (List.length_pos_of_mem hs')
      obtain ⟨s₀, hs₀⟩ := List.length_eq_one_iff.mp hlength
      rw [hs₀, List.mem_singleton] at hs'
      rw [hasText_of_unique (h.service_children s hs _ (elementName_mem u)), hurl,
        urlText_stores_of_safe h hsafe, hs₀, hs', List.flatMap_singleton]
    · have hnil : ((services root).filter fun s => NamesType k s) = [] :=
        List.filter_eq_nil_iff.mpr fun s hs => by simpa using hnone s hs
      rw [hurl, urlText_stores_of_safe h hsafe, hnil]
      rfl

end MirrorLink.Analysis
