import MirrorLink.Program.Actions

/-!
# What a listing says of an application

Each `app` element has children that may stand in any order and more than once; the last one
of a name counts.  An application is shown with the icon that comes first in its list.
-/

set_option autoImplicit false

namespace MirrorLink.Program

open MirrorLink.Library

/-- The text of the last element of a name. -/
def lastText (name : List UInt8) (es : List Element) : Option (List UInt8) :=
  ((es.filter fun e => e.name = name).getLast?).map Element.content

/-- The children of the first icon of a list. -/
def firstIcon (iconList : Element) : List Element := elementChildren iconList.children.head?

/-- The last address of the first icon, from the last list of icons where there is one. -/
def iconAddress (es : List Element) : Option (List UInt8) :=
  ((es.filter fun e => e.name = ascii "iconList").filterMap fun iconList =>
    lastText (ascii "url") (firstIcon iconList)).getLast?

/-- The entry carries what the element says. -/
structure Describes (e : Element) (app : App) : Prop where
  appID : ∀ text, lastText (ascii "appID") e.children = some text → IsHex text app.appID.toNat
  no_appID : lastText (ascii "appID") e.children = none → app.appID = 0
  name : app.name = lastText (ascii "name") e.children
  description : app.description = lastText (ascii "description") e.children
  iconPath : app.iconPath = iconAddress e.children

/-- The texts of an element's `appID` children are hexadecimal numbers of at most 32 bits. -/
def NumberedApp (e : Element) : Prop :=
  ∀ param ∈ e.children, param.name = ascii "appID" → ∃ n < 2 ^ 32, IsHex param.content n

end MirrorLink.Program
