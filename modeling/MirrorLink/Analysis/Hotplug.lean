import MirrorLink.Program.Netlink

/-!
# The scan and the announcements

The two places where a search is opened have different filters, and none of them remembers
an address.  `hotplug_agrees_iff` says for which addresses and announcements nothing depends
on when the program was started, and every address has one client at most.
-/

set_option autoImplicit false

namespace MirrorLink.Analysis

open MirrorLink.Library MirrorLink.Program

/-- An address of a network interface.  A point-to-point interface has a peer. -/
inductive InterfaceAddress where
  | ipv4 (address : InAddr) (peer : Option InAddr)
  | other (family : UInt8) (notInet : family ≠ afInet) (data : Block 14) (payload : List UInt8)

namespace InterfaceAddress

/-- How `getifaddrs` lists the address. -/
def record : InterfaceAddress → SockAddr
  | ipv4 address _ => ⟨afInet.toUInt16, [0, 0] ++ address.bytes ++ List.replicate 8 0, rfl⟩
  | other family _ data _ => ⟨family.toUInt16, data⟩

/-- How the kernel announces the address. -/
def announcement : InterfaceAddress → NlMsg
  | ipv4 address peer => ⟨rtmNewAddr, afInet,
      [⟨ifaAddress, (peer.getD address).bytes⟩, ⟨ifaLocal, address.bytes⟩]⟩
  | other family _ _ payload => ⟨rtmNewAddr, family, [⟨ifaAddress, payload⟩]⟩

end InterfaceAddress

/-- A run of the program: the addresses that are there when it starts, and those that are
announced in each call of `on_netlink_event` after that. -/
structure Hotplug where
  present : List InterfaceAddress
  announced : List (List InterfaceAddress)

namespace Hotplug

def addresses (run : Hotplug) : List InterfaceAddress := run.present ++ run.announced.flatten

/-- The addresses `open_ssdp` is called with, in order. -/
def searched (run : Hotplug) : List InAddr :=
  scanRecords (run.present.map fun x => some x.record) ++
    run.announced.flatMap fun xs => onNetlinkEvent (xs.map InterfaceAddress.announcement)

/-- The same set of addresses, at whatever moment the program is started. -/
def SameAddresses (run run' : Hotplug) : Prop :=
  ∀ x, x ∈ run.addresses ↔ x ∈ run'.addresses

/-- Starting at another moment changes nothing about which addresses are searched, and no
address is searched on two sockets. -/
structure Agrees (run : Hotplug) : Prop where
  same : ∀ run', SameAddresses run run' → ∀ addr, addr ∈ run.searched ↔ addr ∈ run'.searched
  once : ∀ os : List Opening, ((openSearches (run.searched.zip os)).map Prod.fst).Nodup

end Hotplug

/-- `192.168.42.0/24` -/
def Tethering (addr : InAddr) : Prop := addr.a = 192 ∧ addr.b = 168 ∧ addr.c = 42

instance (addr : InAddr) : Decidable (Tethering addr) := inferInstanceAs (Decidable (_ ∧ _))

namespace InterfaceAddress

/-- What the scan takes the address for: of another family, the bytes where an IPv4 address
would stand. -/
def listedAs (x : InterfaceAddress) : Option InAddr :=
  if Tethering x.record.sinAddr then some x.record.sinAddr else none

/-- What an announcement is taken for. -/
def announcedAs : InterfaceAddress → Option InAddr
  | ipv4 address peer => some (peer.getD address)
  | other _ _ _ _ => none

/-- The address is `addr` of the tethering network, with no other one as its peer. -/
def IsPlain (addr : InAddr) : InterfaceAddress → Prop
  | ipv4 address peer => address = addr ∧ peer.getD address = addr ∧ Tethering addr
  | other _ _ _ _ => False

/-- The addresses that are found both ways. -/
theorem isPlain_iff (addr : InAddr) (x : InterfaceAddress) :
    x.IsPlain addr ↔ x.listedAs = some addr ∧ x.announcedAs = some addr := by
  cases x with
  | ipv4 address peer =>
    have hrecord : (ipv4 address peer).record.sinAddr = address := rfl
    rw [IsPlain, listedAs, hrecord, announcedAs, Option.some.injEq]
    constructor
    · rintro ⟨rfl, hpeer, ht⟩
      exact ⟨if_pos ht, hpeer⟩
    · rintro ⟨hlisted, hpeer⟩
      by_cases ht : Tethering address
      · rw [if_pos ht, Option.some.injEq] at hlisted
        exact ⟨hlisted, hpeer, hlisted ▸ ht⟩
      · rw [if_neg ht] at hlisted
        cases hlisted
  | other family notInet data payload =>
    constructor
    · exact False.elim
    · rintro ⟨-, hannounced⟩
      cases hannounced

end InterfaceAddress

/-! ## What the two filters let through -/

/-- The text of an address begins with `192.168.42.` exactly if the address does. -/
theorem take_inetNtoa (addr : InAddr) :
    (inetNtoa addr).take 11 = ascii "192.168.42." ↔ Tethering addr := by
  have htext : ascii "192.168.42." =
      decimal 192 ++ 46 :: (decimal 168 ++ 46 :: (decimal 42 ++ [46])) := by decide
  have hdot : isDigit 46 = false := by decide
  constructor
  · intro h
    have hsplit := List.take_append_drop 11 (inetNtoa addr)
    rw [h, htext] at hsplit
    simp only [List.append_assoc, List.cons_append, List.nil_append] at hsplit
    obtain ⟨ha, hsplit⟩ := decimal_append_inj hdot hsplit
    obtain ⟨hb, hsplit⟩ := decimal_append_inj hdot hsplit
    obtain ⟨hc, -⟩ := decimal_append_inj hdot hsplit
    exact ⟨UInt8.toNat_inj.mp ha.symm, UInt8.toNat_inj.mp hb.symm, UInt8.toNat_inj.mp hc.symm⟩
  · obtain ⟨a, b, c, d⟩ := addr
    rintro ⟨rfl, rfl, rfl⟩
    have hwhole : inetNtoa ⟨192, 168, 42, d⟩ = ascii "192.168.42." ++ decimal d.toNat := by
      rw [htext]
      simp only [List.append_assoc, List.cons_append, List.nil_append]
      rfl
    rw [hwhole]
    exact List.take_left' rfl

/-- A record of `getifaddrs` is looked at for its address. -/
theorem scanRecord_record (x : InterfaceAddress) : scanRecord (some x.record) = x.listedAs := by
  unfold scanRecord InterfaceAddress.listedAs
  by_cases ht : Tethering x.record.sinAddr
  · rw [if_pos ht]
    exact if_pos ((take_inetNtoa _).mpr ht)
  · rw [if_neg ht]
    exact if_neg fun h => ht ((take_inetNtoa _).mp h)

/-- An announcement has at most one new address. -/
theorem newAddresses_announcement (x : InterfaceAddress) :
    newAddresses x.announcement = x.announcedAs.toList := by
  have htype : x.announcement.nlmsgType = rtmNewAddr := by cases x <;> rfl
  rw [newAddresses, if_pos htype]
  cases x with
  | ipv4 address peer =>
    have hlength : ¬ (peer.getD address).bytes.length < 4 := by
      show ¬ 4 < 4
      omega
    have haddress : newAddress afInet ⟨ifaAddress, (peer.getD address).bytes⟩ =
        some (peer.getD address) := by
      rw [newAddress, if_pos rfl, if_pos rfl, if_neg hlength]
      rfl
    have hlocal : newAddress afInet ⟨ifaLocal, address.bytes⟩ = none := rfl
    rw [InterfaceAddress.announcement, List.filterMap_cons_some haddress,
      List.filterMap_cons_none hlocal]
    rfl
  | other family notInet data payload =>
    have hnone : newAddress family ⟨ifaAddress, payload⟩ = none := by
      rw [newAddress, if_pos rfl, if_neg notInet]
    rw [InterfaceAddress.announcement, List.filterMap_cons_none hnone]
    rfl

/-- The addresses of a datagram are those of its announcements. -/
theorem onNetlinkEvent_announcements (xs : List InterfaceAddress) :
    onNetlinkEvent (xs.map InterfaceAddress.announcement) =
      xs.filterMap InterfaceAddress.announcedAs := by
  have hall : ∀ nlh ∈ xs.map InterfaceAddress.announcement,
      decide (nlh.nlmsgType ≠ nlmsgDone ∧ nlh.nlmsgType ≠ nlmsgError) = true := by
    intro nlh hnlh
    obtain ⟨x, -, rfl⟩ := List.mem_map.mp hnlh
    cases x <;> rfl
  rw [onNetlinkEvent, List.takeWhile_eq_self_iff.mpr hall, List.flatMap_map,
    List.filterMap_eq_flatMap_toList]
  exact List.flatMap_congr fun x _ => newAddresses_announcement x

/-! ## Runs -/

namespace Hotplug

/-- What is searched is what was there at the start and what was announced. -/
theorem searched_eq (run : Hotplug) :
    run.searched = run.present.filterMap InterfaceAddress.listedAs ++
      run.announced.flatten.filterMap InterfaceAddress.announcedAs := by
  have hscan : scanRecords (run.present.map fun x => some x.record) =
      run.present.filterMap InterfaceAddress.listedAs := by
    rw [scanRecords, List.filterMap_map]
    exact List.filterMap_congr fun x _ => scanRecord_record x
  have hevents : run.announced.flatMap
      (fun xs => onNetlinkEvent (xs.map InterfaceAddress.announcement)) =
        run.announced.flatten.filterMap InterfaceAddress.announcedAs := by
    rw [List.filterMap_flatten, ← List.flatMap_def]
    exact List.flatMap_congr fun xs _ => onNetlinkEvent_announcements xs
  rw [searched, hscan, hevents]

/-- An address is searched that was found in one of the two ways. -/
theorem mem_searched (run : Hotplug) (addr : InAddr) :
    addr ∈ run.searched ↔ (∃ x ∈ run.present, x.listedAs = some addr) ∨
      ∃ x ∈ run.announced.flatten, x.announcedAs = some addr := by
  rw [searched_eq, List.mem_append, List.mem_filterMap, List.mem_filterMap]

/-- The addresses that are found one way or the other are found both ways somewhere. -/
def FoundBothWays (run : Hotplug) : Prop :=
  ∀ x ∈ run.addresses, ∀ addr, x.listedAs = some addr ∨ x.announcedAs = some addr →
    ∃ y ∈ run.addresses, y.IsPlain addr

/-- A plain address is searched in either way. -/
theorem searched_of_plain {run : Hotplug} {y : InterfaceAddress} {addr : InAddr}
    (hy : y ∈ run.addresses) (hplain : y.IsPlain addr) : addr ∈ run.searched := by
  obtain ⟨hlisted, hannounced⟩ := (InterfaceAddress.isPlain_iff addr y).mp hplain
  rw [mem_searched]
  rcases List.mem_append.mp hy with hy | hy
  · exact .inl ⟨y, hy, hlisted⟩
  · exact .inr ⟨y, hy, hannounced⟩

/-- With every address found both ways, the searched addresses are those of the tethering
network. -/
theorem mem_searched_iff_plain {run : Hotplug} (hboth : run.FoundBothWays) (addr : InAddr) :
    addr ∈ run.searched ↔ ∃ y ∈ run.addresses, y.IsPlain addr := by
  constructor
  · rw [mem_searched]
    rintro (⟨x, hx, hlisted⟩ | ⟨x, hx, hannounced⟩)
    · exact hboth x (List.mem_append_left _ hx) addr (.inl hlisted)
    · exact hboth x (List.mem_append_right _ hx) addr (.inr hannounced)
  · rintro ⟨y, hy, hplain⟩
    exact searched_of_plain hy hplain

/-- Runs with the same addresses are the same in this. -/
theorem SameAddresses.foundBothWays {run run' : Hotplug} (h : SameAddresses run run')
    (hboth : run.FoundBothWays) : run'.FoundBothWays := by
  intro x hx addr hfound
  obtain ⟨y, hy, hplain⟩ := hboth x ((h x).mpr hx) addr hfound
  exact ⟨y, (h y).mp hy, hplain⟩

/-- The moment of the start in which an address is missed: what the scan finds is announced,
and the rest is there. -/
def missing (run : Hotplug) (addr : InAddr) : Hotplug :=
  ⟨run.addresses.filter fun x => ¬ x.listedAs = some addr,
    [run.addresses.filter fun x => x.listedAs = some addr]⟩

/-- Everything is there at the start, and announced again. -/
def doubled (run : Hotplug) : Hotplug := ⟨run.addresses, [run.addresses]⟩

/-- An address may be announced instead of being there. -/
theorem sameAddresses_missing (run : Hotplug) (addr : InAddr) :
    SameAddresses run (run.missing addr) := by
  intro x
  rw [missing, addresses, addresses, List.flatten_singleton, List.mem_append (t := List.filter _ _),
    List.mem_filter, List.mem_filter]
  by_cases hx : x.listedAs = some addr
  · simp [hx]
  · simp [hx]

/-- Every address may be announced as well. -/
theorem sameAddresses_doubled (run : Hotplug) : SameAddresses run run.doubled := by
  intro x
  show _ ↔ x ∈ run.addresses ++ [run.addresses].flatten
  rw [List.flatten_singleton, List.mem_append, or_self]

/-- What is searched does not depend on the way an address comes. -/
theorem foundBothWays_of_same {run : Hotplug}
    (h : ∀ run', SameAddresses run run' → ∀ addr, addr ∈ run.searched ↔ addr ∈ run'.searched) :
    run.FoundBothWays := by
  intro x hx addr hfound
  have hdoubled : addr ∈ run.doubled.searched := by
    rw [mem_searched]
    rcases hfound with hlisted | hannounced
    · exact .inl ⟨x, hx, hlisted⟩
    · exact .inr ⟨x, by simpa [doubled] using hx, hannounced⟩
  have hmissing := (h _ (run.sameAddresses_missing addr) addr).mp
    ((h _ run.sameAddresses_doubled addr).mpr hdoubled)
  rw [mem_searched] at hmissing
  rcases hmissing with ⟨y, hy, hlisted⟩ | ⟨y, hy, hannounced⟩
  · rw [missing, List.mem_filter] at hy
    exact absurd hlisted (of_decide_eq_true hy.2)
  · rw [missing, List.flatten_singleton, List.mem_filter] at hy
    exact ⟨y, hy.1, (InterfaceAddress.isPlain_iff addr y).mpr
      ⟨of_decide_eq_true hy.2, hannounced⟩⟩

/-- With every call succeeding, every address that is searched has its client. -/
theorem map_openSearches_opened (addrs : List InAddr) :
    (openSearches (addrs.zip (addrs.map fun _ => .opened 0))).map Prod.fst = addrs := by
  induction addrs with
  | nil => rfl
  | cons addr addrs ih =>
    rw [List.map_cons, List.zip_cons_cons, openSearches, List.map_cons, ih]

/-- The searches that are opened are in the order of the addresses. -/
theorem openSearches_sublist (addrs : List InAddr) (os : List Opening) :
    ((openSearches (addrs.zip os)).map Prod.fst).Sublist addrs := by
  induction addrs generalizing os with
  | nil => exact List.Sublist.refl _
  | cons addr addrs ih =>
    cases os with
    | nil => exact List.nil_sublist _
    | cons o os =>
      rw [List.zip_cons_cons]
      cases o with
      | exited => exact List.nil_sublist _
      | bindFailed => exact (ih os).cons addr
      | opened fd => exact (ih os).cons_cons addr

end Hotplug

/-- **The scan and the announcements.**  Nothing depends on the moment of the start, and every
address has one client at most, exactly if all that is found one way is an address of the
tethering network, found both ways, and is found once. -/
theorem hotplug_agrees_iff (run : Hotplug) :
    run.Agrees ↔
      (∀ x ∈ run.addresses, ∀ addr, x.listedAs = some addr ∨ x.announcedAs = some addr →
        ∃ y ∈ run.addresses, y.IsPlain addr) ∧
      (run.present.filterMap InterfaceAddress.listedAs ++
        run.announced.flatten.filterMap InterfaceAddress.announcedAs).Nodup := by
  rw [← Hotplug.searched_eq]
  constructor
  · rintro ⟨hsame, honce⟩
    refine ⟨Hotplug.foundBothWays_of_same hsame, ?_⟩
    have hopened := honce (run.searched.map fun _ => .opened 0)
    rwa [Hotplug.map_openSearches_opened] at hopened
  · rintro ⟨hboth, hnodup⟩
    refine ⟨?_, ?_⟩
    · intro run' hsame addr
      rw [Hotplug.mem_searched_iff_plain hboth,
        Hotplug.mem_searched_iff_plain (hsame.foundBothWays hboth)]
      constructor
      · rintro ⟨y, hy, hplain⟩
        exact ⟨y, (hsame y).mp hy, hplain⟩
      · rintro ⟨y, hy, hplain⟩
        exact ⟨y, (hsame y).mpr hy, hplain⟩
    · intro os
      exact hnodup.sublist (Hotplug.openSearches_sublist _ os)

/-- An address outside the tethering network is searched if it is announced, and is not if it
was there before. -/
theorem hotplug_agrees_fails : ¬ ∀ run : Hotplug, run.Agrees := by
  intro h
  have hsame := (h ⟨[.ipv4 ⟨10, 0, 0, 5⟩ none], []⟩).same ⟨[], [[.ipv4 ⟨10, 0, 0, 5⟩ none]]⟩
    (fun x => by rfl) ⟨10, 0, 0, 5⟩
  exact absurd hsame (by decide +kernel)

end MirrorLink.Analysis
