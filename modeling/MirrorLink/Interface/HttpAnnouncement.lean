import MirrorLink.Interface.HttpResponse

/-!
# What a received text announces

The header section of a text goes up to its first blank line.  The first field of it that is
called `Content-Length`, in whatever letters, says how many of the bytes behind the blank
line are the body.
-/

set_option autoImplicit false

namespace MirrorLink.Program

open MirrorLink.Library

/-- `"\r\n\r\n"` -/
def blankLine : List UInt8 := crlf ++ crlf

/-- The lines of a text, without their ends. -/
def crlfLines : List UInt8 → List (List UInt8)
  | [] => [[]]
  | 13 :: 10 :: text => [] :: crlfLines text
  | b :: text => (crlfLines text).modifyHead (b :: ·)

/-- The letter in lower case. -/
def toLower (b : UInt8) : UInt8 := if 65 ≤ b ∧ b ≤ 90 then b + 32 else b

/-- The line is a field called `Content-Length`. -/
def NamesLength (line : List UInt8) : Prop :=
  ∃ name value, line = name ++ 58 :: value ∧ name.map toLower = ascii "content-length"

/-- The line is such a field with the value `n`. -/
def GivesLength (line : List UInt8) (n : ℕ) : Prop :=
  ∃ name before digits after, line = name ++ 58 :: (before ++ digits ++ after) ∧
    name.map toLower = ascii "content-length" ∧ (∀ b ∈ before ++ after, b = 32 ∨ b = 9) ∧
    digits ≠ [] ∧ (∀ b ∈ digits, isDigit b = true) ∧ digitsValue digits = n

/-- The first field of a header section called `Content-Length` has the value `n`.  The first
line is no field. -/
def HeadGivesLength (head : List UInt8) (n : ℕ) : Prop :=
  ∃ before line after, (crlfLines head).tail = before ++ line :: after ∧ GivesLength line n ∧
    ∀ l ∈ before, ¬ NamesLength l

/-- The header section is there, announces `n` bytes, and `rest` is what is behind it. -/
structure Announces (text : List UInt8) (n : ℕ) (head rest : List UInt8) : Prop where
  split : text = head ++ (blankLine ++ rest)
  first : strstr blankLine text = some (blankLine ++ rest)
  length : HeadGivesLength head n

/-- The text has the whole body it announces, and `body` is that. -/
def HasBody (text body : List UInt8) : Prop :=
  ∃ n head rest, Announces text n head rest ∧ n ≤ rest.length ∧ body = rest.take n

example : HasBody (ascii "HTTP/1.1 200 OK\r\nContent-length:  2\r\n\r\nab") (ascii "ab") := by
  have hlines : (crlfLines (ascii "HTTP/1.1 200 OK\r\nContent-length:  2")).tail =
      [] ++ ascii "Content-length:  2" :: [] := rfl
  have hblanks : ∀ b ∈ ([32, 32] ++ [] : List UInt8), b = 32 ∨ b = 9 := by
    intro b hb
    exact Or.inl (by simpa using hb)
  have hdigits : ∀ b ∈ ([50] : List UInt8), isDigit b = true := by
    intro b hb
    rw [List.mem_singleton.mp hb]
    rfl
  have hgives : GivesLength (ascii "Content-length:  2") 2 :=
    ⟨ascii "Content-length", [32, 32], [50], [], rfl, rfl, hblanks, List.cons_ne_nil _ _,
      hdigits, rfl⟩
  have hnames : ∀ l ∈ ([] : List (List UInt8)), ¬ NamesLength l := by
    intro l hl
    cases hl
  exact ⟨2, _, ascii "ab", ⟨rfl, rfl, [], _, [], hlines, hgives, hnames⟩, by decide, rfl⟩

end MirrorLink.Program
