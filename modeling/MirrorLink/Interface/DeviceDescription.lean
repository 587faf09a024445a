import MirrorLink.Program.RemoteServer
import Mathlib.Data.Multiset.Bind

/-!
# Descriptions of a device, as a tree

A description has devices below its root, a device has a list of services, and a service has
a type and three addresses.  `WellFormed` says which descriptions are meant, `Arranged` that
two descriptions differ in the order of siblings only, and `Described` what a server made
from a description holds; all three take no notice of the order.
-/

set_option autoImplicit false

namespace MirrorLink.Program

open MirrorLink.Library

/-! ## Parts of a description -/

def Element.named (name : List UInt8) (e : Element) : List Element :=
  e.children.filter fun c => c.name = name

/-- The device is a MirrorLink server. -/
def IsServerDevice (d : Element) : Prop :=
  ∃ c ∈ d.children, c.name = ascii "deviceType" ∧
    c.content = ascii "urn:schemas-upnp-org:device:TmServerDevice:1"

instance (d : Element) : Decidable (IsServerDevice d) :=
  inferInstanceAs (Decidable (∃ c ∈ d.children, _))

/-- The device elements of a description. -/
def devices (root : Element) : List Element := root.named (ascii "device")

/-- The service elements of a device. -/
def deviceServices (d : Element) : List Element :=
  (d.named (ascii "serviceList")).flatMap (Element.named (ascii "service"))

/-- The service elements of a description. -/
def services (root : Element) : List Element := (devices root).flatMap deviceServices

/-- The service types the client knows, by their index. -/
def serviceTypeName (k : Fin 3) : List UInt8 :=
  if k.val = 0 then ascii "urn:schemas-upnp-org:service:TmApplicationServer:1"
  else if k.val = 1 then ascii "urn:schemas-upnp-org:service:TmClientProfile:1"
  else ascii "urn:schemas-upnp-org:service:TmNotificationServer:1"

/-- The service is of this type. -/
def NamesType (k : Fin 3) (s : Element) : Prop :=
  ∃ c ∈ s.children, c.name = ascii "serviceType" ∧ c.content = serviceTypeName k

instance (k : Fin 3) (s : Element) : Decidable (NamesType k s) :=
  inferInstanceAs (Decidable (∃ c ∈ s.children, _))

/-- The element that holds an address. -/
def Url.elementName : Url → List UInt8
  | .surl => ascii "SCPDURL"
  | .curl => ascii "controlURL"
  | .eurl => ascii "eventSubURL"

/-! ## Which descriptions are meant -/

structure WellFormed (root : Element) : Prop where
  one_server : ((devices root).filter fun d => IsServerDevice d).length = 1
  device_children : ∀ d ∈ devices root,
    ∀ name ∈ [ascii "deviceType", ascii "UDN", ascii "serviceList"], (d.named name).length ≤ 1
  service_children : ∀ s ∈ services root,
    ∀ name ∈ [ascii "serviceType", ascii "SCPDURL", ascii "controlURL", ascii "eventSubURL"],
      (s.named name).length ≤ 1
  one_service : ∀ k, ((services root).filter fun s => NamesType k s).length ≤ 1

/-! ## The order of siblings -/

/-- The children of `e'` are those of `e` in another order, each up to `R`. -/
def Shuffled (R : Element → Element → Prop) (e e' : Element) : Prop :=
  e'.name = e.name ∧ Multiset.Rel R (e.children : Multiset Element) (e'.children : Multiset Element)

/-- Elements of this name are related by `R`, all others are the same. -/
def AtName (name : List UInt8) (R : Element → Element → Prop) (e e' : Element) : Prop :=
  if e.name = name then R e e' else e' = e

/-- The two descriptions are the same up to the order of the children of services, service
lists and devices. -/
def Arranged (root root' : Element) : Prop :=
  List.Forall₂ (AtName (ascii "device") (Shuffled (AtName (ascii "serviceList")
    (Shuffled (AtName (ascii "service") (Shuffled Eq)))))) root.children root'.children

/-! ## What is made of a description -/

/-- The member of a `service_info`. -/
def ServiceInfo.member (info : ServiceInfo) : Url → Option (List UInt8)
  | .surl => info.surl
  | .curl => info.curl
  | .eurl => info.eurl

/-- The text of the child of this name; nothing if there is no such child, or no text. -/
def HasText (e : Element) (name : List UInt8) (text : Option (List UInt8)) : Prop :=
  (∀ c ∈ e.children, c.name = name → text = strAppend none c.content) ∧
    ((∀ c ∈ e.children, c.name ≠ name) → text = none)

/-- The server holds what the description says. -/
structure Described (root : Element) (server : RemoteServer) : Prop where
  uuid : ∀ d ∈ devices root, IsServerDevice d → HasText d (ascii "UDN") server.uuid
  url : ∀ k, ∀ s ∈ services root, NamesType k s →
    ∀ u : Url, HasText s u.elementName ((server.sinfo k).member u)
  unset : ∀ k, (∀ s ∈ services root, ¬ NamesType k s) →
    ∀ u, (server.sinfo k).member u = none

end MirrorLink.Program
