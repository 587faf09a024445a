import MirrorLink.Program.Ssdp

/-!
# Answers to a search

An answer is a text of lines.  One of them gives the target it answers and one the address; the
others, in whatever order they stand, begin in another way.
-/

set_option autoImplicit false

namespace MirrorLink.Program

open MirrorLink.Library

/-- The lines of a text, each but the last with its end: LF, or CR and LF. -/
inductive HasLines : List (List UInt8) → List UInt8 → Prop where
  | last {line : List UInt8} (hline : 10 ∉ line) : HasLines [line] line
  | lf {line text : List UInt8} {lines : List (List UInt8)} (hline : 10 ∉ line)
    (rest : HasLines lines text) : HasLines (line :: lines) (line ++ 10 :: text)
  | crlf {line text : List UInt8} {lines : List (List UInt8)} (hline : 10 ∉ line)
    (rest : HasLines lines text) : HasLines (line :: lines) (line ++ 13 :: 10 :: text)

/-- The text is not empty and has no white space. -/
def IsWord (text : List UInt8) : Prop := text ≠ [] ∧ ∀ b ∈ text, isSpace b = false

instance (text : List UInt8) : Decidable (IsWord text) :=
  @instDecidableAnd _ _ inferInstance (List.decidableBAll _ text)

/-- A well-formed answer. -/
structure SearchResponse where
  text : List UInt8
  lines : List (List UInt8)
  st : List UInt8
  location : List UInt8
  hasLines : HasLines lines text
  st_line : (lines.filter fun line => ascii "ST:" <+: line) = [ascii "ST: " ++ st]
  location_line : (lines.filter fun line => ascii "Location:" <+: line) =
    [ascii "Location: " ++ location]
  st_word : IsWord st
  location_word : IsWord location
  no_zero : 0 ∉ text
  length_le : text.length ≤ 1024

end MirrorLink.Program
