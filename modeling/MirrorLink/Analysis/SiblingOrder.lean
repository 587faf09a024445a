import MirrorLink.Analysis.DescriptionTexts

/-!
# The order of siblings in a description

Which descriptions are meant, and what they say, does not depend on the order of siblings
(`wellFormed_arranged`, `described_arranged_iff`).  What `remote_server_create` makes of them
does: it is what they say exactly if the description is in order (`sibling_order_iff`).
-/

set_option autoImplicit false

namespace MirrorLink.Analysis

open MirrorLink.Library MirrorLink.Program

/-! ## Lists up to their order -/

section Rel

variable {α β γ δ : Type} {R : α → β → Prop} {S : γ → δ → Prop}

/-- What is kept corresponds if the relation keeps the choice. -/
theorem rel_filter {l : List α} {l' : List β} {p : α → Prop} {q : β → Prop} [DecidablePred p]
    [DecidablePred q] (h : Multiset.Rel R (l : Multiset α) (l' : Multiset β))
    (hpq : ∀ a b, R a b → (p a ↔ q b)) :
    Multiset.Rel R (l.filter fun a => p a : List α) (l'.filter fun b => q b : List β) := by
  have hfilter : ∀ {s : Multiset α} {t : Multiset β}, Multiset.Rel R s t →
      Multiset.Rel R (s.filter p) (t.filter q) := by
    intro s t hst
    induction hst with
    | zero => exact Multiset.Rel.zero
    | @cons a b s t hab _ ih =>
      by_cases hp : p a
      · rw [Multiset.filter_cons_of_pos _ hp, Multiset.filter_cons_of_pos _ ((hpq a b hab).mp hp)]
        exact Multiset.Rel.cons hab ih
      · rw [Multiset.filter_cons_of_neg _ hp,
          Multiset.filter_cons_of_neg _ fun hq => hp ((hpq a b hab).mpr hq)]
        exact ih
  exact hfilter h

/-- The parts correspond if their wholes do. -/
theorem rel_flatMap {l : List α} {l' : List β} {f : α → List γ} {g : β → List δ}
    (h : Multiset.Rel R (l : Multiset α) (l' : Multiset β))
    (hfg : ∀ a b, R a b → Multiset.Rel S (f a : Multiset γ) (g b : Multiset δ)) :
    Multiset.Rel S (l.flatMap f : List γ) (l'.flatMap g : List δ) := by
  rw [← Multiset.coe_bind, ← Multiset.coe_bind]
  exact Multiset.rel_bind (fun a b hab => hfg a b hab) h

/-- What corresponds in order corresponds. -/
theorem rel_of_forall₂ {l : List α} {l' : List β} (h : List.Forall₂ R l l') :
    Multiset.Rel R (l : Multiset α) (l' : Multiset β) := by
  induction h with
  | nil => exact Multiset.Rel.zero
  | cons hab _ ih => exact Multiset.Rel.cons hab ih

/-- There is the same number on both sides. -/
theorem length_eq_of_rel {l : List α} {l' : List β}
    (h : Multiset.Rel R (l : Multiset α) (l' : Multiset β)) : l'.length = l.length :=
  (Multiset.card_eq_card_of_rel h).symm

/-- Every element has its like. -/
theorem exists_of_rel {l : List α} {l' : List β}
    (h : Multiset.Rel R (l : Multiset α) (l' : Multiset β)) {a : α} (ha : a ∈ l) :
    ∃ b ∈ l', R a b :=
  Multiset.exists_mem_of_rel_of_mem h (a := a) ha

/-- So has every element of the other side. -/
theorem exists_of_rel' {l : List α} {l' : List β}
    (h : Multiset.Rel R (l : Multiset α) (l' : Multiset β)) {b : β} (hb : b ∈ l') :
    ∃ a ∈ l, R a b :=
  Multiset.exists_mem_of_rel_of_mem (Multiset.rel_flip.mpr h) (a := b) hb

end Rel

/-! ## Parts of arranged elements -/

/-- A service, up to the order of its children. -/
abbrev ServiceArranged : Element → Element → Prop := Shuffled Eq

abbrev ServiceListArranged : Element → Element → Prop :=
  Shuffled (AtName (ascii "service") ServiceArranged)

abbrev DeviceArranged : Element → Element → Prop :=
  Shuffled (AtName (ascii "serviceList") ServiceListArranged)

/-- The relation keeps names. -/
def KeepsName (R : Element → Element → Prop) : Prop := ∀ e e', R e e' → e'.name = e.name

/-- An element has its own name. -/
theorem keepsName_eq : KeepsName Eq := fun _ _ h => by rw [h]

/-- Shuffling the children keeps the name. -/
theorem keepsName_shuffled (R : Element → Element → Prop) : KeepsName (Shuffled R) :=
  fun _ _ h => h.1

/-- So does what is done to elements of one name. -/
theorem keepsName_atName {name : List UInt8} {R : Element → Element → Prop} (hR : KeepsName R) :
    KeepsName (AtName name R) := by
  intro e e' h
  unfold AtName at h
  split_ifs at h
  · exact hR e e' h
  · rw [h]

/-- The children of one name, of two elements that are the same up to order. -/
theorem rel_named {R : Element → Element → Prop} (hR : KeepsName R) {e e' : Element}
    (h : Multiset.Rel R (e.children : Multiset Element) (e'.children : Multiset Element))
    (name : List UInt8) :
    Multiset.Rel R (e.named name : Multiset Element) (e'.named name : Multiset Element) :=
  rel_filter h fun a b hab => by rw [hR a b hab]

/-- Those of the name at which the elements may differ. -/
theorem rel_named_at {R : Element → Element → Prop} (hR : KeepsName R) {e e' : Element}
    {name : List UInt8} (h : Multiset.Rel (AtName name R) (e.children : Multiset Element)
      (e'.children : Multiset Element)) :
    Multiset.Rel R (e.named name : Multiset Element) (e'.named name : Multiset Element) := by
  refine (rel_named (keepsName_atName hR) h name).mono fun a ha b _ hab => ?_
  have hname : a.name = name := by
    have hmem : a ∈ e.named name := ha
    simpa using (List.mem_filter.mp hmem).2
  rwa [AtName, if_pos hname] at hab

/-- Those of another name are the same. -/
theorem named_perm {R : Element → Element → Prop} (hR : KeepsName R) {e e' : Element}
    {name other : List UInt8} (h : Multiset.Rel (AtName name R) (e.children : Multiset Element)
      (e'.children : Multiset Element)) (hne : other ≠ name) :
    (e'.named other).Perm (e.named other) := by
  have hrel : Multiset.Rel Eq (e.named other : Multiset Element)
      (e'.named other : Multiset Element) := by
    refine (rel_named (keepsName_atName hR) h other).mono fun a ha b _ hab => ?_
    have hname : a.name = other := by
      have hmem : a ∈ e.named other := ha
      simpa using (List.mem_filter.mp hmem).2
    rw [AtName, if_neg (by rw [hname]; exact hne)] at hab
    exact hab.symm
  exact (Multiset.coe_eq_coe.mp (Multiset.rel_eq.mp hrel)).symm

/-- The children of a name. -/
theorem mem_named {c e : Element} {name : List UInt8} :
    c ∈ e.named name ↔ c ∈ e.children ∧ c.name = name := by
  simp [Element.named]

/-- A text only depends on the children of its name. -/
theorem hasText_congr {e e' : Element} {name : List UInt8}
    (h : (e'.named name).Perm (e.named name)) (text : Option (List UInt8)) :
    HasText e' name text ↔ HasText e name text := by
  have hspec : ∀ e : Element, HasText e name text ↔
      (∀ c ∈ e.named name, text = strAppend none c.content) ∧
        ((∀ c, c ∉ e.named name) → text = none) := by
    intro e
    simp only [HasText, mem_named, and_imp, not_and]
  rw [hspec, hspec]
  simp only [h.mem_iff]

/-- Whether a child of a name has some content only depends on the children of that name. -/
theorem exists_named_congr {e e' : Element} {name : List UInt8}
    (h : (e'.named name).Perm (e.named name)) (content : List UInt8) :
    (∃ c ∈ e'.children, c.name = name ∧ c.content = content) ↔
      ∃ c ∈ e.children, c.name = name ∧ c.content = content := by
  have hspec : ∀ e : Element, (∃ c ∈ e.children, c.name = name ∧ c.content = content) ↔
      ∃ c ∈ e.named name, c.content = content := by
    intro e
    simp only [mem_named, and_assoc]
  rw [hspec, hspec]
  simp only [h.mem_iff]

/-! ## Arranged descriptions -/

/-- The children of a service are shuffled among those of their name. -/
theorem service_named_perm {s s' : Element} (h : ServiceArranged s s') (name : List UInt8) :
    (s'.named name).Perm (s.named name) :=
  (Multiset.coe_eq_coe.mp (Multiset.rel_eq.mp (rel_named keepsName_eq h.2 name))).symm

/-- So the type of a service is named as before. -/
theorem namesType_arranged {s s' : Element} (h : ServiceArranged s s') (k : Fin 3) :
    NamesType k s' ↔ NamesType k s :=
  exists_named_congr (service_named_perm h _) _

/-- The children of a device are shuffled among those of their name. -/
theorem device_named_perm {d d' : Element} (h : DeviceArranged d d') {name : List UInt8}
    (hne : name ≠ ascii "serviceList") : (d'.named name).Perm (d.named name) :=
  named_perm (keepsName_shuffled _) h.2 hne

/-- So a server is one as before. -/
theorem isServerDevice_arranged {d d' : Element} (h : DeviceArranged d d') :
    IsServerDevice d' ↔ IsServerDevice d :=
  exists_named_congr (device_named_perm h (by decide)) _

/-- And there are as many of each name. -/
theorem length_named_device {d d' : Element} (h : DeviceArranged d d') (name : List UInt8) :
    (d'.named name).length = (d.named name).length :=
  length_eq_of_rel (rel_named (keepsName_atName (keepsName_shuffled _)) h.2 name)

/-- The services of two devices that are the same up to order. -/
theorem rel_deviceServices {d d' : Element} (h : DeviceArranged d d') :
    Multiset.Rel ServiceArranged (deviceServices d : Multiset Element)
      (deviceServices d' : Multiset Element) :=
  rel_flatMap (rel_named_at (keepsName_shuffled _) h.2)
    fun _ _ hl => rel_named_at (keepsName_shuffled _) hl.2

section Arranged

variable {root root' : Element}

/-- The devices correspond. -/
theorem rel_devices (h : Arranged root root') :
    Multiset.Rel DeviceArranged (devices root : Multiset Element)
      (devices root' : Multiset Element) :=
  rel_named_at (keepsName_shuffled _) (rel_of_forall₂ h)

/-- The services correspond. -/
theorem rel_services (h : Arranged root root') :
    Multiset.Rel ServiceArranged (services root : Multiset Element)
      (services root' : Multiset Element) :=
  rel_flatMap (rel_devices h) fun _ _ => rel_deviceServices

/-- **Which descriptions are meant** does not depend on the order of siblings. -/
theorem wellFormed_arranged (h : WellFormed root) (harr : Arranged root root') :
    WellFormed root' where
  one_server := by
    rw [← h.one_server]
    exact length_eq_of_rel (rel_filter (rel_devices harr)
      fun _ _ hd => (isServerDevice_arranged hd).symm)
  device_children := by
    intro d' hd' name hname
    obtain ⟨d, hd, hrel⟩ := exists_of_rel' (rel_devices harr) hd'
    rw [length_named_device hrel]
    exact h.device_children d hd name hname
  service_children := by
    intro s' hs' name hname
    obtain ⟨s, hs, hrel⟩ := exists_of_rel' (rel_services harr) hs'
    rw [(service_named_perm hrel name).length_eq]
    exact h.service_children s hs name hname
  one_service := by
    intro k
    refine le_of_eq_of_le (length_eq_of_rel (rel_filter (rel_services harr)
      fun _ _ hs => (namesType_arranged hs k).symm)) (h.one_service k)

/-- **What a description says** does not depend on the order of siblings. -/
theorem described_arranged_iff (harr : Arranged root root') (t : RemoteServer) :
    Described root' t ↔ Described root t := by
  have hudn : ascii "UDN" ≠ ascii "serviceList" := by decide
  constructor
  · intro h
    refine ⟨fun d hd hserver => ?_, fun k s hs hnames u => ?_, fun k hnone u => ?_⟩
    · obtain ⟨d', hd', hrel⟩ := exists_of_rel (rel_devices harr) hd
      rw [← hasText_congr (device_named_perm hrel hudn)]
      exact h.uuid d' hd' ((isServerDevice_arranged hrel).mpr hserver)
    · obtain ⟨s', hs', hrel⟩ := exists_of_rel (rel_services harr) hs
      rw [← hasText_congr (service_named_perm hrel _)]
      exact h.url k s' hs' ((namesType_arranged hrel k).mpr hnames) u
    · refine h.unset k (fun s' hs' hnames => ?_) u
      obtain ⟨s, hs, hrel⟩ := exists_of_rel' (rel_services harr) hs'
      exact hnone s hs ((namesType_arranged hrel k).mp hnames)
  · intro h
    refine ⟨fun d' hd' hserver => ?_, fun k s' hs' hnames u => ?_, fun k hnone u => ?_⟩
    · obtain ⟨d, hd, hrel⟩ := exists_of_rel' (rel_devices harr) hd'
      rw [hasText_congr (device_named_perm hrel hudn)]
      exact h.uuid d hd ((isServerDevice_arranged hrel).mp hserver)
    · obtain ⟨s, hs, hrel⟩ := exists_of_rel' (rel_services harr) hs'
      rw [hasText_congr (service_named_perm hrel _)]
      exact h.url k s hs ((namesType_arranged hrel k).mp hnames) u
    · refine h.unset k (fun s hs hnames => ?_) u
      obtain ⟨s', hs', hrel⟩ := exists_of_rel (rel_services harr) hs
      exact hnone s' hs' ((namesType_arranged hrel k).mpr hnames)

end Arranged

/-! ## The order matters -/

/-- In order, an address has a service to go to or is empty. -/
theorem safe_of_inOrder {root : Element} (h : InOrder (some root)) :
    ∀ type m content, Store.url type m content ∈ stores root → type < 3 ∨ content = [] := by
  intro type m content hin
  rw [InOrder, ← map_item_stores] at h
  obtain ⟨before, after, hsplit⟩ := List.append_of_mem (List.mem_map_of_mem (f := Store.item) hin)
  have hstorable := h before _ after hsplit
  by_cases htype : type < 3
  · exact .inl htype
  · exact .inr (hstorable.2 (by simpa using htype))

/-- `remote_server_create` makes a server that holds what the description says. -/
def CreatesDescribed (parse : Option (List UInt8) → Option Element) (ip : List UInt8)
    (port : UInt16) (path : List UInt8) (reply : Reply) (root : Element) : Prop :=
  ∃ server, remoteServerCreate parse ip port path reply = .ok (some server) ∧ Described root server

/-- **The order of siblings.**  For a description in any arrangement of siblings, the server
holds what it says exactly if the arrangement is in order, and no device but the server has
given its `UDN`. -/
theorem sibling_order_iff (parse : Option (List UInt8) → Option Element) (ip : List UInt8)
    (port : UInt16) (path : List UInt8) (reply : Reply) (rsp : HttpRsp) (root root' : Element)
    (hrsp : httpExchange ip port (httpClientMakeReq (ascii "GET") path) reply = .ok (some rsp))
    (hcode : rsp.errcode = 200) (hparse : parse rsp.body = some root') (hroot : WellFormed root)
    (harr : Arranged root root') :
    CreatesDescribed parse ip port path reply root ↔
      InOrder (some root') ∧ OnlyServerNamed root' := by
  have hroot' := wellFormed_arranged hroot harr
  have hcreate : remoteServerCreate parse ip port path reply =
      root'.children.foldlM (rootChild ip port) none := by
    rw [remoteServerCreate, hrsp]
    show (if rsp.errcode = 200 then _ else _) = _
    rw [if_pos hcode, hparse]
    rfl
  have hends := ends_description ip port (some root')
  have hserver : ∀ server, InOrder (some root') →
      root'.children.foldlM (rootChild ip port) none = .ok server →
      ∃ t, server = some t ∧ (Described root t ↔ OnlyServerNamed root') := by
    intro server horder hrun
    obtain ⟨es, hes, hnone⟩ := stores_eq_of_inOrder hroot' horder
    rw [run_description, hes, List.foldlM_cons] at hrun
    obtain ⟨t, rfl, huuid, hurl⟩ := run_stores ip port hnone
      (show es.foldlM (Store.run ip port) (some (RemoteServer.zero ip port)) = .ok server from hrun)
    refine ⟨t, rfl, ?_⟩
    rw [← described_arranged_iff harr]
    refine described_iff hroot' ?_ (fun k u => ?_) (safe_of_inOrder horder)
    · rw [huuid, hes]
      rfl
    · rw [hurl, hes]
      cases u <;> rfl
  unfold CreatesDescribed
  rw [hcreate]
  constructor
  · rintro ⟨t, hrun, hdescribed⟩
    rcases hends with ⟨horder, -⟩ | ⟨-, fault, hfault⟩
    · obtain ⟨t', ht', hiff⟩ := hserver _ horder hrun
      cases ht'
      exact ⟨horder, hiff.mp hdescribed⟩
    · cases hrun.symm.trans hfault
  · rintro ⟨horder, honly⟩
    rcases hends with ⟨-, server, hrun, -⟩ | ⟨hbad, -⟩
    · obtain ⟨t, rfl, hiff⟩ := hserver _ horder hrun
      exact ⟨t, hrun, hiff.mpr honly⟩
    · exact absurd horder hbad

/-- Nothing is done to an element of another name. -/
theorem atName_self {name : List UInt8} {R : Element → Element → Prop} {e : Element}
    (hne : e.name ≠ name) : AtName name R e e := by
  rw [AtName, if_neg hne]

/-- And to one of the name what is to be done. -/
theorem atName_of_eq {name : List UInt8} {R : Element → Element → Prop} {e e' : Element}
    (heq : e.name = name) (h : R e e') : AtName name R e e' := by
  rwa [AtName, if_pos heq]

def serverDeviceType : Element :=
  .mk (ascii "deviceType") (ascii "urn:schemas-upnp-org:device:TmServerDevice:1") []

def sampleUdn : Element := .mk (ascii "UDN") (ascii "uuid:1") []

/-- A description whose device has these children. -/
def deviceWith (children : List Element) : Element :=
  .mk (ascii "root") [] [.mk (ascii "device") [] children]

/-- A list of one service with these children. -/
def serviceListWith (children : List Element) : Element :=
  .mk (ascii "serviceList") [] [.mk (ascii "service") [] children]

def sampleType : Element :=
  .mk (ascii "serviceType") (ascii "urn:schemas-upnp-org:service:TmApplicationServer:1") []

def sampleUrl (name : List UInt8) : Element := .mk name (ascii "/c") []

def okReply : Reply := .answered (some ⟨⟨200, some (ascii "<root/>")⟩, by decide⟩)

/-- Two addresses in the other order, behind the type. -/
theorem sibling_order_of_urls :
    CreatesDescribed
      (fun _ => some (deviceWith [serverDeviceType, sampleUdn, serviceListWith
        [sampleType, sampleUrl (ascii "eventSubURL"), sampleUrl (ascii "controlURL")]]))
      (ascii "192.168.42.129") 8080 (ascii "/d.xml") okReply
      (deviceWith [serverDeviceType, sampleUdn, serviceListWith
        [sampleType, sampleUrl (ascii "controlURL"), sampleUrl (ascii "eventSubURL")]]) := by
  refine (sibling_order_iff _ _ _ _ _ _ _ _ rfl rfl rfl ?_ ?_).mpr ⟨?_, ?_⟩
  · exact ⟨by decide +kernel, by decide +kernel, by decide +kernel, by decide +kernel⟩
  · refine .cons (atName_of_eq rfl ⟨rfl, ?_⟩) .nil
    refine .cons (atName_self (by decide)) (.cons (atName_self (by decide)) (.cons ?_ .zero))
    refine atName_of_eq rfl ⟨rfl, rel_of_forall₂ (.cons (atName_of_eq rfl ⟨rfl, ?_⟩) .nil)⟩
    exact Multiset.rel_eq.mpr (Multiset.coe_eq_coe.mpr (.cons _ (.swap _ _ _)))
  · have hitems : descriptionItems (some (deviceWith [serverDeviceType, sampleUdn,
        serviceListWith [sampleType, sampleUrl (ascii "eventSubURL"),
          sampleUrl (ascii "controlURL")]])) =
        [.server, .uuid, .url true (ascii "/c"), .url true (ascii "/c")] := by decide +kernel
    rw [InOrder, hitems]
    simp [safeFrom_cons, safeFrom_nil, Item.Storable]
  · intro d hd hnot
    exact absurd (List.mem_singleton.mp hd ▸ (by decide +kernel)) hnot

/-- The `UDN` before the `deviceType`. -/
theorem sibling_order_fails :
    ¬ ∀ (parse : Option (List UInt8) → Option Element) (ip : List UInt8) (port : UInt16)
      (path : List UInt8) (reply : Reply) (rsp : HttpRsp) (root root' : Element),
      httpExchange ip port (httpClientMakeReq (ascii "GET") path) reply = .ok (some rsp) →
      rsp.errcode = 200 → parse rsp.body = some root' → WellFormed root → Arranged root root' →
      CreatesDescribed parse ip port path reply root := by
  intro h
  obtain ⟨server, hrun, -⟩ := h (fun _ => some (deviceWith [sampleUdn, serverDeviceType]))
    (ascii "192.168.42.129") 8080 (ascii "/d.xml") okReply ⟨200, some (ascii "<root/>")⟩
    (deviceWith [serverDeviceType, sampleUdn]) (deviceWith [sampleUdn, serverDeviceType])
    rfl rfl rfl
    ⟨by decide +kernel, by decide +kernel, by decide +kernel, by decide +kernel⟩
    (.cons (atName_of_eq rfl ⟨rfl, by
      rw [show (Element.children (.mk (ascii "device") [] [sampleUdn, serverDeviceType]) :
          Multiset Element) = ([serverDeviceType, sampleUdn] : List Element) from
        Multiset.coe_eq_coe.mpr (.swap _ _ _)]
      exact .cons (atName_self (by decide)) (.cons (atName_self (by decide)) .zero)⟩) .nil)
  cases hrun

end MirrorLink.Analysis
