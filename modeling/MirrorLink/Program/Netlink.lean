import MirrorLink.Program.Upnp

/-!
# Which addresses are searched: `UI/main.cpp`

A search is opened in two places.  The loop over `getifaddrs` takes every record for a
`sockaddr_in` and goes by the text of what is then its address.  `on_netlink_event` goes by
the family of a new address, and takes whatever its `IFA_ADDRESS` attribute holds.
-/

set_option autoImplicit false

namespace MirrorLink.Program

open MirrorLink.Library Effectful

/-! ## Addresses -/

/-- `struct in_addr`, the bytes in the order they stand in memory. -/
structure InAddr where
  a : UInt8
  b : UInt8
  c : UInt8
  d : UInt8
  deriving DecidableEq, Repr

namespace InAddr

def bytes (addr : InAddr) : List UInt8 := [addr.a, addr.b, addr.c, addr.d]

/-- The address at the beginning of some bytes. -/
def ofBytes (bytes : List UInt8) : InAddr :=
  ⟨bytes.getD 0 0, bytes.getD 1 0, bytes.getD 2 0, bytes.getD 3 0⟩

/-- An address is its first four bytes. -/
@[simp] theorem ofBytes_append (addr : InAddr) (rest : List UInt8) :
    ofBytes (addr.bytes ++ rest) = addr := rfl

end InAddr

/-- `inet_ntoa` -/
def inetNtoa (addr : InAddr) : List UInt8 :=
  decimal addr.a.toNat ++ 46 :: (decimal addr.b.toNat ++ 46 :: (decimal addr.c.toNat ++
    46 :: decimal addr.d.toNat))

/-- `AF_INET` -/
def afInet : UInt8 := 2

/-- `struct sockaddr`: the family and the bytes of `sa_data`. -/
structure SockAddr where
  saFamily : UInt16
  saData : Block 14

/-- `((struct sockaddr_in *) addr)->sin_addr`: the bytes behind a port, of any family. -/
def SockAddr.sinAddr (addr : SockAddr) : InAddr := InAddr.ofBytes (addr.saData.val.drop 2)

/-! ## The scan at startup -/

/-- One turn of the loop over `getifaddrs`: the address `open_ssdp` is called with. -/
def scanRecord : Option SockAddr → Option InAddr
  | none => none
  | some addr =>
    if (inetNtoa addr.sinAddr).take 11 = ascii "192.168.42." then some addr.sinAddr else none

/-- The loop over `getifaddrs`. -/
def scanRecords (addrs : List (Option SockAddr)) : List InAddr := addrs.filterMap scanRecord

/-- The interfaces of the thread's startup that are searched are those of the scan. -/
theorem startupOpenings_scan (records : List (SockAddr × Opening)) :
    startupOpenings (records.map fun r => ⟨inetNtoa r.1.sinAddr, r.2⟩) =
      (records.filter fun r => (scanRecord (some r.1)).isSome).map Prod.snd := by
  rw [startupOpenings, List.filter_map, List.map_map]
  have hsame : (isTethered ∘ fun r : SockAddr × Opening =>
      (⟨inetNtoa r.1.sinAddr, r.2⟩ : Interface)) =
      fun r => (scanRecord (some r.1)).isSome := by
    funext r
    by_cases ht : (inetNtoa r.1.sinAddr).take 11 = ascii "192.168.42."
    · simp [isTethered, scanRecord, ht]
    · simp [isTethered, scanRecord, ht]
  rw [hsame]
  rfl

/-! ## New addresses -/

/-- `NLMSG_ERROR` -/
def nlmsgError : UInt16 := 2

/-- `NLMSG_DONE` -/
def nlmsgDone : UInt16 := 3

/-- `RTM_NEWADDR` -/
def rtmNewAddr : UInt16 := 20

/-- `IFA_ADDRESS` -/
def ifaAddress : UInt16 := 1

/-- `IFA_LOCAL` -/
def ifaLocal : UInt16 := 2

structure RtAttr where
  rtaType : UInt16
  payload : List UInt8

/-- A message of the netlink socket, with the family and the attributes of an address. -/
structure NlMsg where
  nlmsgType : UInt16
  ifaFamily : UInt8
  attributes : List RtAttr

/-- One turn of the loop over the attributes. -/
def newAddress (ifaFamily : UInt8) (rta : RtAttr) : Option InAddr :=
  if rta.rtaType = ifaAddress then
    if ifaFamily = afInet then
      if rta.payload.length < 4 then none else some (InAddr.ofBytes rta.payload)
    else none
  else none

/-- `case RTM_NEWADDR` -/
def newAddresses (nlh : NlMsg) : List InAddr :=
  if nlh.nlmsgType = rtmNewAddr then nlh.attributes.filterMap (newAddress nlh.ifaFamily) else []

/-- `on_netlink_event`: the addresses `open_ssdp` is called with. -/
def onNetlinkEvent (messages : List NlMsg) : List InAddr :=
  (messages.takeWhile fun nlh =>
    nlh.nlmsgType ≠ nlmsgDone ∧ nlh.nlmsgType ≠ nlmsgError).flatMap newAddresses

/-! ## The searches -/

/-- `open_ssdp` for one address after the other: the clients that are added. -/
def openSearches : List (InAddr × Opening) → List (InAddr × ℤ)
  | [] => []
  | (_, .exited) :: _ => []
  | (_, .bindFailed) :: calls => openSearches calls
  | (addr, .opened fd) :: calls => (addr, fd) :: openSearches calls

/-- The searches that are opened become clients. -/
theorem remoteClients_openAll (calls : List (InAddr × Opening)) (t : Thread) :
    ((openAll (calls.map Prod.snd)).run t).state.context.remoteClients =
      t.context.remoteClients ++ (openSearches calls).map Prod.snd := by
  induction calls generalizing t with
  | nil => simp [openAll, openSearches]
  | cons call calls ih =>
    obtain ⟨addr, o⟩ := call
    cases o with
    | exited => simp [openAll, openSsdp, openSearches]
    | bindFailed => simpa [openAll, openSsdp, openSearches] using ih t
    | opened fd =>
      have h := ih { t with context := t.context.addClient fd }
      simpa [openAll, openSsdp, openSearches, modifyContext, Context.addClient] using h

end MirrorLink.Program
