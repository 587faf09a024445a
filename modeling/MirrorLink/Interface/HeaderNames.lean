import MirrorLink.Interface.HttpAnnouncement
import MirrorLink.Program.Ssdp

/-!
# Header fields, and their names in other letters

A field is a name, a colon and a value.  Messages with the same fields, but for the case of the
letters in their names, mean the same.
-/

set_option autoImplicit false

namespace MirrorLink.Program

open MirrorLink.Library

/-! ## Fields -/

structure HeaderField where
  name : List UInt8
  value : List UInt8
  deriving DecidableEq

namespace HeaderField

def line (f : HeaderField) : List UInt8 := f.name ++ 58 :: f.value

/-- The field is called `name`, in whatever letters. -/
def Called (name : List UInt8) (f : HeaderField) : Prop := f.name.map toLower = name

instance (name : List UInt8) (f : HeaderField) : Decidable (f.Called name) :=
  inferInstanceAs (Decidable (_ = _))

structure WellFormed (f : HeaderField) : Prop where
  name_ne_nil : f.name ≠ []
  /-- A name has visible letters and no colon. -/
  name_visible : ∀ b ∈ f.name, 32 < b ∧ b ≠ 58
  value_line : IsLine f.value

/-- The same field, with other letters perhaps. -/
def SameField (f g : HeaderField) : Prop :=
  g.name.map toLower = f.name.map toLower ∧ g.value = f.value

end HeaderField

/-- A change of letters in the names of fields. -/
def Respelled (fields fields' : List HeaderField) : Prop :=
  List.Forall₂ HeaderField.SameField fields fields'

/-- The value is this word, with blanks around it perhaps. -/
def HasWord (value word : List UInt8) : Prop :=
  ∃ before after, value = before ++ (word ++ after) ∧
    (∀ b ∈ before ++ after, b = 32 ∨ b = 9) ∧ word ≠ [] ∧ ∀ b ∈ word, isSpace b = false

/-! ## Answers to a search -/

/-- A well-formed answer: a status line and fields, two of which are the target and the
address. -/
structure SsdpMessage where
  start : List UInt8
  fields : List HeaderField
  target : HeaderField
  targetWord : List UInt8
  location : HeaderField
  locationWord : List UInt8
  start_line : IsLine start
  start_http : ascii "HTTP/" <+: start
  wellFormed : ∀ f ∈ fields, f.WellFormed
  only_target : (fields.filter fun f => f.Called (ascii "st")) = [target]
  only_location : (fields.filter fun f => f.Called (ascii "location")) = [location]
  target_word : HasWord target.value targetWord
  location_word : HasWord location.value locationWord
  length_le : (written (start :: fields.map HeaderField.line) ++ crlf).length ≤ 1024

/-- The text of the answer, with these fields. -/
def SsdpMessage.text (m : SsdpMessage) (fields : List HeaderField) : List UInt8 :=
  written (m.start :: fields.map HeaderField.line) ++ crlf

/-! ## Responses -/

def contentLengthNames : List (List UInt8) := [ascii "Content-Length:", ascii "CONTENT-LENGTH:"]

/-- A well-formed response, whose body has the length that one of the fields gives, if there is
one. -/
structure HttpMessage where
  version : HttpVersion
  code : ℕ
  /-- What follows the code: nothing, or a blank and the reason. -/
  reason : List UInt8
  fields : List HeaderField
  body : List UInt8
  code_ge : 100 ≤ code
  code_le : code ≤ 999
  reason_line : IsLine reason
  reason_blank : reason = [] ∨ reason.head? = some 32
  wellFormed : ∀ f ∈ fields, f.WellFormed
  /-- The length is given by a field of that name, or not at all. -/
  length : (∃ f, (fields.filter fun f => f.Called (ascii "content-length")) = [f] ∧
      GivesLength f.line body.length) ∨
    ∀ f ∈ fields, ¬ ascii "content-length" <:+ f.name.map toLower
  /-- That name stands in no reason and in no value. -/
  no_other_length : ∀ name ∈ contentLengthNames, ¬ name <:+: reason ∧
    ∀ f ∈ fields, ¬ name <:+: f.value
  body_no_zero : 0 ∉ body
  length_lt : (written ((ascii "HTTP/1." ++ decimal version.minor ++ ascii " " ++ decimal code ++
    reason) :: fields.map HeaderField.line) ++ crlf ++ body).length < 2 ^ 31

namespace HttpMessage

def statusLine (m : HttpMessage) : List UInt8 :=
  ascii "HTTP/1." ++ decimal m.version.minor ++ ascii " " ++ decimal m.code ++ m.reason

/-- Everything before the body, with these fields. -/
def head (m : HttpMessage) (fields : List HeaderField) : List UInt8 :=
  written (m.statusLine :: fields.map HeaderField.line) ++ crlf

def bytes (m : HttpMessage) (fields : List HeaderField) : List UInt8 := m.head fields ++ m.body

end HttpMessage

end MirrorLink.Program
