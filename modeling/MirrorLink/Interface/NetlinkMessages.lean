import MirrorLink.Library.Records
import MirrorLink.Program.Netlink

/-!
# Messages of the netlink socket

A message is a header with its length, its type and ten bytes more, and what is behind it; of a
new address that is a `struct ifaddrmsg` and attributes, each with its length and its type.
-/

set_option autoImplicit false

namespace MirrorLink.Program

open MirrorLink.Library

/-- The bytes of an attribute. -/
def AttributeBytes (rta : RtAttr) (bytes : List UInt8) : Prop :=
  4 + rta.payload.length < 65536 ∧
    bytes = le16Bytes (.ofNat (4 + rta.payload.length)) ++ le16Bytes rta.rtaType ++ rta.payload

/-- What is behind the header of a new address: the family, seven bytes more and the
attributes. -/
def NewAddressBytes (nlh : NlMsg) (body : List UInt8) : Prop :=
  ∃ others attributes, others.length = 7 ∧ Padded AttributeBytes nlh.attributes attributes ∧
    body = nlh.ifaFamily :: others ++ attributes

/-- The bytes of a message; those of any other type may hold what they like. -/
def MessageBytes (nlh : NlMsg) (bytes : List UInt8) : Prop :=
  ∃ others body, others.length = 10 ∧ 16 + body.length < 4294967296 ∧
    (nlh.nlmsgType = rtmNewAddr → NewAddressBytes nlh body) ∧
    bytes = le32Bytes (.ofNat (16 + body.length)) ++ le16Bytes nlh.nlmsgType ++ others ++ body

/-- The addresses that a new IPv4 address brings. -/
def addressesOf (nlh : NlMsg) : List InAddr :=
  (nlh.attributes.filter fun rta => rta.rtaType = ifaAddress ∧ 4 ≤ rta.payload.length).map
    fun rta => InAddr.ofBytes rta.payload

/-- The addresses of all new IPv4 addresses before the first message that ends the walk. -/
def announcedAddresses (messages : List NlMsg) : List InAddr :=
  ((messages.takeWhile fun nlh => nlh.nlmsgType ≠ nlmsgDone ∧ nlh.nlmsgType ≠ nlmsgError).filter
    fun nlh => nlh.nlmsgType = rtmNewAddr ∧ nlh.ifaFamily = afInet).flatMap addressesOf

end MirrorLink.Program
