import MirrorLink.Library.Records
import MirrorLink.Program.Netlink

/-!
# `on_netlink_event` of `UI/main.cpp`, byte by byte

The messages of one `recvmsg` and the attributes of a message are walked with the macros of
the kernel headers, each with a counter of the bytes that are left.  What is called for is
`open_ssdp`; what is only printed is left out.
-/

set_option autoImplicit false

namespace MirrorLink.Program

open MirrorLink.Library

/-- The `struct in_addr` at an index of the array. -/
def inAddrAt (buf : List UInt8) (i : ℕ) : Except Fault InAddr :=
  match buf.drop i with
  | a :: b :: c :: d :: _ => .ok ⟨a, b, c, d⟩
  | _ => .error .outsideArray

/-- The attribute `rta` of a message whose `struct ifaddrmsg` is `ifa`. -/
def newAddressAt (buf : List UInt8) (ifa rta : ℕ) (rtaLen : UInt16) :
    Except Fault (List InAddr) := do
  let rtaType ← le16At buf (rta + 2)
  if rtaType = ifaAddress then
    let ifaFamily ← byteAt buf ifa
    if ifaFamily = afInet then
      -- `RTA_PAYLOAD(rta) < sizeof(*addr4)`
      if rtaLen.toNat - 4 < 4 then pure []
      else
        let addr4 ← inAddrAt buf (rta + 4)
        pure [addr4]
    else pure []
  else pure []

/-- A turn of the loop over the attributes, with `RTA_OK` and the step of `RTA_NEXT`. -/
def attributeTurn (buf : List UInt8) (ifa rta : ℕ) (left : ℤ) :
    Except Fault (Option (List InAddr × ℕ)) :=
  if left < 4 then pure none
  else do
    let rtaLen ← le16At buf rta
    if rtaLen.toNat < 4 ∨ left < rtaLen.toNat then pure none
    else
      let calls ← newAddressAt buf ifa rta rtaLen
      pure (some (calls, alignTo4 rtaLen.toNat))

/-- The `switch` over the type: only `RTM_NEWADDR` does more than print. -/
def newAddressesAt (buf : List UInt8) (turns nlh : ℕ) (nlmsgLen : UInt32) (nlmsgType : UInt16) :
    Except Fault (List InAddr) :=
  if nlmsgType = rtmNewAddr then
    -- `NLMSG_DATA`, `IFA_RTA` and `IFA_PAYLOAD`
    walkRecords (attributeTurn buf (nlh + 16)) turns (nlh + 16 + 8) ((nlmsgLen.toNat : ℤ) - 24)
  else pure []

/-- A turn of the loop over the messages, with `NLMSG_OK` and the step of `NLMSG_NEXT`. -/
def messageTurn (buf : List UInt8) (turns nlh : ℕ) (left : ℤ) :
    Except Fault (Option (List InAddr × ℕ)) :=
  if left < 16 then pure none
  else do
    let nlmsgLen ← le32At buf nlh
    if nlmsgLen.toNat < 16 ∨ left < nlmsgLen.toNat then pure none
    else
      let nlmsgType ← le16At buf (nlh + 4)
      if nlmsgType = nlmsgDone ∨ nlmsgType = nlmsgError then pure none
      else
        let calls ← newAddressesAt buf turns nlh nlmsgLen nlmsgType
        pure (some (calls, alignTo4 nlmsgLen.toNat))

/-- `on_netlink_event`: what it returns, and the addresses it calls `open_ssdp` with.  `buf` is
what the array holds before `recvmsg`, which fails or writes what it receives. -/
def onNetlinkReceived (turns : ℕ) (buf : Block 4096) :
    Option (List UInt8) → Except Fault (ℤ × List InAddr)
  | none => pure (-1, [])
  | some received => do
    let buf := overlay received buf.val
    let calls ← walkRecords (messageTurn buf turns) turns 0 received.length
    pure (0, calls)

end MirrorLink.Program
