import MirrorLink.Library.Bytes

/-!
# Texts in UTF-8

`utf8` encodes a text.  It is read from the left in one way only (`utf8_prefix`), and a byte of
ASCII stands for a character of its own wherever it is (`utf8_split`).
-/

set_option autoImplicit false

namespace MirrorLink.Library

/-- The bytes of a text. -/
def utf8 (text : List Char) : List UInt8 := text.flatMap String.utf8EncodeChar

/-- No characters, no bytes. -/
@[simp] theorem utf8_nil : utf8 [] = [] := rfl

/-- The bytes of the first character come first. -/
@[simp] theorem utf8_cons (c : Char) (text : List Char) :
    utf8 (c :: text) = String.utf8EncodeChar c ++ utf8 text := List.flatMap_cons

/-- The bytes of two texts follow each other. -/
@[simp] theorem utf8_append (text rest : List Char) :
    utf8 (text ++ rest) = utf8 text ++ utf8 rest :=
  List.flatMap_append

/-- The character at the beginning of some bytes. -/
theorem utf8EncodeChar_inj {c d : Char} {rest rest' : List UInt8}
    (h : String.utf8EncodeChar c ++ rest = String.utf8EncodeChar d ++ rest') : c = d := by
  have hread : ∀ (e : Char) (after : List UInt8),
      (String.utf8EncodeChar e ++ after).toByteArray.utf8DecodeChar? 0 = some e := by
    intro e after
    rw [List.toByteArray_append]
    exact ByteArray.utf8DecodeChar?_utf8EncodeChar_append
  have hc := hread c rest
  rw [h, hread d rest'] at hc
  exact (Option.some.inj hc).symm

/-- Only the empty text has no bytes. -/
theorem utf8_eq_nil {text : List Char} (h : utf8 text = []) : text = [] := by
  cases text with
  | nil => rfl
  | cons c text =>
    rw [utf8_cons] at h
    exact absurd (List.append_eq_nil_iff.mp h).1 String.utf8EncodeChar_ne_nil

/-- What begins with the bytes of a text is a text that begins with it. -/
theorem utf8_prefix {text front : List Char} {rest : List UInt8}
    (h : utf8 text = utf8 front ++ rest) : ∃ back, text = front ++ back ∧ utf8 back = rest := by
  induction front generalizing text with
  | nil => exact ⟨text, rfl, h⟩
  | cons c front ih =>
    rw [utf8_cons, List.append_assoc] at h
    cases text with
    | nil => exact absurd (List.append_eq_nil_iff.mp h.symm).1 String.utf8EncodeChar_ne_nil
    | cons d text =>
      rw [utf8_cons] at h
      obtain rfl : d = c := utf8EncodeChar_inj h
      obtain ⟨back, rfl, hback⟩ := ih (List.append_cancel_left h)
      exact ⟨back, rfl, hback⟩

/-- **A text is known by its bytes.** -/
theorem utf8_injective {text text' : List Char} (h : utf8 text = utf8 text') : text = text' := by
  have hnil : utf8 text = utf8 text' ++ [] := by rw [h, List.append_nil]
  obtain ⟨back, rfl, hback⟩ := utf8_prefix hnil
  rw [utf8_eq_nil hback, List.append_nil]

/-! ## ASCII -/

/-- A character of ASCII is one byte. -/
theorem utf8EncodeChar_of_lt {c : Char} (h : c.toNat < 128) :
    String.utf8EncodeChar c = [c.toNat.toUInt8] := by
  have hsize : c.utf8Size = 1 :=
    Char.utf8Size_eq_one_iff.mpr (UInt32.le_iff_toNat_le.mpr (Nat.le_of_lt_succ h))
  exact String.utf8EncodeChar_eq_singleton hsize

/-- A character that is none of ASCII has no byte of ASCII. -/
theorem le_of_mem_utf8EncodeChar {c : Char} (h : 128 ≤ c.toNat) {b : UInt8}
    (hb : b ∈ String.utf8EncodeChar c) : 128 ≤ b.toNat := by
  unfold String.utf8EncodeChar at hb
  have hc : ¬ c.val.toNat ≤ 127 := Nat.not_le_of_lt h
  simp only [hc, if_false] at hb
  split_ifs at hb <;>
  · simp only [List.mem_cons, List.not_mem_nil, or_false] at hb
    rcases hb with rfl | rfl | rfl | rfl <;> simp <;> omega

/-- A text of ASCII has one byte for each character. -/
theorem utf8_ascii {text : List Char} (h : ∀ c ∈ text, c.toNat < 128) :
    utf8 text = text.map fun c => c.toNat.toUInt8 := by
  induction text with
  | nil => rfl
  | cons c text ih =>
    rw [utf8_cons, utf8EncodeChar_of_lt (h c List.mem_cons_self),
      ih fun d hd => h d (List.mem_cons_of_mem _ hd)]
    rfl

/-- The text of bytes of ASCII. -/
def asciiText (bytes : List UInt8) : List Char := bytes.map Char.ofUInt8

/-- The character of a byte has its number. -/
theorem toNat_ofUInt8 (b : UInt8) : (Char.ofUInt8 b).toNat = b.toNat := UInt8.toNat_toUInt32 b

/-- Bytes of ASCII are the bytes of their text. -/
theorem utf8_asciiText {bytes : List UInt8} (h : ∀ b ∈ bytes, b.toNat < 128) :
    utf8 (asciiText bytes) = bytes := by
  induction bytes with
  | nil => rfl
  | cons b bytes ih =>
    have hb : (Char.ofUInt8 b).toNat < 128 := by
      rw [toNat_ofUInt8]
      exact h b List.mem_cons_self
    have hrest := ih fun d hd => h d (List.mem_cons_of_mem _ hd)
    rw [asciiText] at hrest
    rw [asciiText, List.map_cons, utf8_cons, utf8EncodeChar_of_lt hb, toNat_ofUInt8, hrest]
    simp

/-- Bytes that are divided before a byte of ASCII divide the text. -/
theorem utf8_split {text : List Char} {before after : List UInt8} {b : UInt8}
    (hb : b.toNat < 128) (h : utf8 text = before ++ b :: after) :
    ∃ front back, text = front ++ back ∧ utf8 front = before ∧ utf8 back = b :: after := by
  induction text generalizing before with
  | nil => exact absurd h (by simp)
  | cons c text ih =>
    rw [utf8_cons] at h
    rcases List.append_eq_append_iff.mp h with ⟨mid, hbefore, hmid⟩ | ⟨mid, hchar, hmid⟩
    · -- the character is in front of the byte
      obtain ⟨front, back, rfl, hfront, hback⟩ := ih hmid
      refine ⟨c :: front, back, rfl, ?_, hback⟩
      rw [utf8_cons, hfront, hbefore]
    · rcases before with _ | ⟨a, before⟩
      · exact ⟨[], c :: text, rfl, rfl, by rw [utf8_cons, h, List.nil_append]⟩
      · rcases mid with _ | ⟨b', mid⟩
        · refine ⟨[c], text, rfl, ?_, ?_⟩
          · rw [utf8_cons, hchar, utf8_nil]
            simp
          · simpa using hmid.symm
        · -- the byte would be inside the character
          obtain ⟨rfl, -⟩ := List.cons.inj hmid
          have hmem : b ∈ String.utf8EncodeChar c := by
            rw [hchar]
            simp
          by_cases hascii : c.toNat < 128
          · rw [utf8EncodeChar_of_lt hascii] at hchar
            have := congrArg List.length hchar
            simp at this
          · exact absurd (le_of_mem_utf8EncodeChar (Nat.le_of_not_lt hascii) hmem) (by omega)

end MirrorLink.Library
