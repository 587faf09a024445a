import MirrorLink.Library.Bytes
import Mathlib.Algebra.Order.Ring.Nat
import Mathlib.Data.List.TakeWhile
import Mathlib.Tactic.IntervalCases

/-!
# Formatted input: `sscanf`

A format is a list of directives.  `sscanf` runs them over a text from the left and returns
the fields that were assigned, in order; it stops at the first directive that fails.  `%d`
and `%s` skip the white space before them, and a blank in the format skips any amount of
it, also none.

Numbers are written by `decimal` and read by `digitsValue`; `scanInt_digits` says what `%d`
finds where a number, or the beginning of one, has been written.
-/

set_option autoImplicit false

namespace MirrorLink.Library

/-- The characters `isspace` accepts. -/
def isSpace (b : UInt8) : Bool := b = 32 ∨ (9 ≤ b ∧ b ≤ 13)

/-- The characters `isdigit` accepts. -/
def isDigit (b : UInt8) : Bool := 48 ≤ b ∧ b ≤ 57

/-- One directive of a format. -/
inductive Directive where
  /-- white space: skip any amount of it -/
  | space
  /-- an ordinary character -/
  | char (c : UInt8)
  /-- `%d`, with the greatest number of characters it may take -/
  | int (width : Option ℕ)
  /-- `%s`, or `%*s` if the word is not to be stored -/
  | word (store : Bool)
deriving DecidableEq, Repr

/-- The directives of a format as it is written in the source. -/
def directives : List Char → List Directive
  | '%' :: 'd' :: format => .int none :: directives format
  | '%' :: '1' :: 'd' :: format => .int (some 1) :: directives format
  | '%' :: '3' :: 'd' :: format => .int (some 3) :: directives format
  | '%' :: 's' :: format => .word true :: directives format
  | '%' :: '*' :: 's' :: format => .word false :: directives format
  | c :: format =>
    (if isSpace c.toNat.toUInt8 then .space else .char c.toNat.toUInt8) :: directives format
  | [] => []

/-- An assigned field. -/
inductive Field where
  | int (value : ℤ)
  | word (text : List UInt8)
deriving DecidableEq, Repr

/-- The number a string of digits denotes. -/
def digitsValue (digits : List UInt8) : ℕ :=
  digits.foldl (fun value b => 10 * value + (b.toNat - 48)) 0

/-- The part of a text within a width. -/
def within : Option ℕ → List UInt8 → List UInt8
  | none, text => text
  | some n, text => text.take n

/-- An optional sign and a string of digits within the width: the number and the text
after it, or nothing if there is no digit. -/
def scanInt (width : Option ℕ) (text : List UInt8) : Option (ℤ × List UInt8) :=
  let field := within width text
  let signs := (field.take 1).filter fun b => b = 43 ∨ b = 45
  let digits := (field.drop signs.length).takeWhile isDigit
  if digits = [] then none
  else
    let value : ℤ := digitsValue digits
    some (if signs = [45] then -value else value, text.drop (signs.length + digits.length))

/-- What `%d` stores of a number: `strtol` takes the nearest one of 64 bits, and an `int` has
the low 32 of them. -/
def storeInt (value : ℤ) : UInt32 :=
  UInt32.ofInt (max (-9223372036854775808) (min value 9223372036854775807))

/-- The fields `sscanf(text, format, …)` assigns. -/
def sscanf : List Directive → List UInt8 → List Field
  | [], _ => []
  | .space :: format, text => sscanf format (text.dropWhile isSpace)
  | .char c :: format, text =>
    if text.head? = some c then sscanf format text.tail else []
  | .int width :: format, text =>
    match scanInt width (text.dropWhile isSpace) with
    | none => []
    | some (value, rest) => .int value :: sscanf format rest
  | .word store :: format, text =>
    let found := text.dropWhile isSpace
    let word := found.takeWhile (! isSpace ·)
    if word = [] then []
    else if store then .word word :: sscanf format (found.drop word.length)
    else sscanf format (found.drop word.length)

/-- The characters up to white space, after any white space. -/
def firstWord (text : List UInt8) : List UInt8 :=
  (text.dropWhile isSpace).takeWhile (! isSpace ·)

/-- The sign, if there is one. -/
def scanSign (text : List UInt8) : List UInt8 := (text.take 1).filter fun b => b = 43 ∨ b = 45

/-- What `strtoul` makes of a sign and a magnitude, in 64 bits. -/
def signedMagnitude (sign : List UInt8) (value : ℕ) : ℕ :=
  if 2 ^ 64 ≤ value then 2 ^ 64 - 1 else if sign = [45] then (2 ^ 64 - value) % 2 ^ 64 else value

/-- `%hu` -/
def scanShort (text : List UInt8) : Option UInt16 :=
  let text := text.dropWhile isSpace
  let sign := scanSign text
  let digits := (text.drop sign.length).takeWhile isDigit
  if digits = [] then none
  else some (UInt16.ofNat (signedMagnitude sign (digitsValue digits)))

/-- The value of a hexadecimal digit. -/
def hexDigit? (b : UInt8) : Option ℕ :=
  if 48 ≤ b ∧ b ≤ 57 then some (b.toNat - 48)
  else if 97 ≤ b ∧ b ≤ 102 then some (b.toNat - 87)
  else if 65 ≤ b ∧ b ≤ 70 then some (b.toNat - 55)
  else none

/-- `%x` -/
def scanHex (text : List UInt8) : Option UInt32 :=
  let text := text.dropWhile isSpace
  let sign := scanSign text
  let text := text.drop sign.length
  let text := if text.take 2 = [48, 120] ∨ text.take 2 = [48, 88] then text.drop 2 else text
  let digits := (text.takeWhile fun b => (hexDigit? b).isSome).filterMap hexDigit?
  if digits = [] then none
  else some (UInt32.ofNat (signedMagnitude sign (digits.foldl (fun value d => 16 * value + d) 0)))

/-- `%d` in `sprintf` -/
def decimal (n : ℕ) : List UInt8 := (Nat.toDigits 10 n).map fun c => c.toNat.toUInt8

/-- `%d` in `sprintf`, for an unsigned number. -/
def decimalInt (n : UInt32) : List UInt8 :=
  if n.toNat < 2 ^ 31 then decimal n.toNat else 45 :: decimal (2 ^ 32 - n.toNat)

/-- `%08x` in `sprintf` -/
def hex08 (n : UInt32) : List UInt8 :=
  let digits := (Nat.toDigits 16 n.toNat).map fun c => c.toNat.toUInt8
  List.replicate (8 - digits.length) 48 ++ digits

/-! ## Ordinary characters -/

/-- A format that begins with the text runs on behind it. -/
theorem sscanf_chars (word : List UInt8) (format : List Directive) (text : List UInt8) :
    sscanf (word.map .char ++ format) (word ++ text) = sscanf format text := by
  induction word with
  | nil => rfl
  | cons c word ih =>
    rw [List.map_cons, List.cons_append, List.cons_append, sscanf]
    simpa using ih

/-- A format that the text does not begin with assigns nothing. -/
theorem sscanf_chars_of_not_begin (word : List UInt8) (format : List Directive)
    (text : List UInt8) (h : ¬ word <+: text) : sscanf (word.map .char ++ format) text = [] := by
  induction word generalizing text with
  | nil => exact absurd (List.nil_prefix) h
  | cons c word ih =>
    rw [List.map_cons, List.cons_append, sscanf]
    cases text with
    | nil => rfl
    | cons b text =>
      rw [List.cons_prefix_cons, not_and_or] at h
      by_cases hb : b = c
      · have hhead : (b :: text).head? = some c := congrArg some hb
        rw [if_pos hhead, List.tail_cons]
        apply ih
        rcases h with h | h
        · exact absurd hb.symm h
        · exact h
      · have hhead : (b :: text).head? ≠ some c := fun heq => hb (Option.some.inj heq)
        rw [if_neg hhead]

/-! ## Words -/

/-- Skipping twice skips no more than once. -/
theorem dropWhile_dropWhile (p : UInt8 → Bool) (text : List UInt8) :
    (text.dropWhile p).dropWhile p = text.dropWhile p := by
  induction text with
  | nil => rfl
  | cons b text ih =>
    by_cases hb : p b = true
    · rw [List.dropWhile_cons_of_pos hb, ih]
    · rw [List.dropWhile_cons_of_neg hb, List.dropWhile_cons_of_neg hb]

/-- `%s` at the end of a format. -/
theorem sscanf_word (text : List UInt8) :
    sscanf [.space, .word true] text =
      if firstWord text = [] then [] else [.word (firstWord text)] := by
  rw [sscanf, sscanf, dropWhile_dropWhile]
  by_cases hword : firstWord text = []
  · rw [if_pos hword]
    exact if_pos hword
  · rw [if_neg hword]
    exact if_neg hword

/-- Exactly what is to be skipped is skipped. -/
theorem dropWhile_append_of_all {p : UInt8 → Bool} {before after : List UInt8}
    (hbefore : ∀ b ∈ before, p b = true) (hafter : ∀ b ∈ after.head?, p b = false) :
    (before ++ after).dropWhile p = after := by
  rw [List.dropWhile_append_of_pos hbefore]
  cases after with
  | nil => rfl
  | cons b after => exact List.dropWhile_cons_of_neg (by simp [hafter b rfl])

/-- `%s` at a word with white space around it. -/
theorem firstWord_word {before word after : List UInt8} (hbefore : ∀ b ∈ before, isSpace b = true)
    (hne : word ≠ []) (hword : ∀ b ∈ word, isSpace b = false)
    (hafter : ∀ b ∈ after.head?, isSpace b = true) :
    firstWord (before ++ (word ++ after)) = word := by
  have hhead : ∀ b ∈ (word ++ after).head?, isSpace b = false := by
    obtain ⟨c, word, rfl⟩ := List.exists_cons_of_ne_nil hne
    intro b hb
    cases hb
    exact hword c List.mem_cons_self
  have hkeep : ∀ b ∈ word, (! isSpace b) = true := fun b hb => by simp [hword b hb]
  rw [firstWord, dropWhile_append_of_all hbefore hhead, List.takeWhile_append_of_pos hkeep]
  cases after with
  | nil => simp
  | cons b after => simp [hafter b rfl]

/-! ## Numbers -/

/-- The value of digits behind digits. -/
theorem digitsValue_append (a b : List UInt8) :
    digitsValue (a ++ b) = 10 ^ b.length * digitsValue a + digitsValue b := by
  have hfold : ∀ (l : List UInt8) (v : ℕ),
      l.foldl (fun value b => 10 * value + (b.toNat - 48)) v =
        10 ^ l.length * v + digitsValue l := by
    intro l
    induction l with
    | nil => intro v; simp [digitsValue]
    | cons c l ih =>
      intro v
      rw [digitsValue, List.foldl_cons, List.foldl_cons, ih, ih, List.length_cons, pow_succ]
      ring
  rw [digitsValue, List.foldl_append, hfold]
  rfl

/-- Fewer digits have no greater value. -/
theorem digitsValue_take_le (digits : List UInt8) (i : ℕ) :
    digitsValue (digits.take i) ≤ digitsValue digits := by
  have h := digitsValue_append (digits.take i) (digits.drop i)
  rw [List.take_append_drop] at h
  have hpow : 0 < 10 ^ (digits.drop i).length := Nat.pow_pos (by decide)
  calc digitsValue (digits.take i)
      ≤ 10 ^ (digits.drop i).length * digitsValue (digits.take i) :=
        Nat.le_mul_of_pos_left _ hpow
    _ ≤ digitsValue digits := by omega

/-- A number below ten has one digit. -/
theorem decimal_of_lt {n : ℕ} (h : n < 10) : decimal n = [n.digitChar.toNat.toUInt8] := by
  rw [decimal, Nat.toDigits_of_lt_base h]
  rfl

/-- A number from ten on has its last digit behind those of a tenth of it. -/
theorem decimal_of_ge {n : ℕ} (h : 10 ≤ n) :
    decimal n = decimal (n / 10) ++ [(n % 10).digitChar.toNat.toUInt8] := by
  rw [decimal, Nat.toDigits_of_base_le (by decide) h, List.map_append]
  rfl

/-- Every number has a digit. -/
theorem decimal_ne_nil (n : ℕ) : decimal n ≠ [] := by
  simp [decimal]

/-- A number of at most `k` digits is one below 10ᵏ. -/
theorem length_decimal_le_iff {n k : ℕ} (h : 0 < k) :
    (decimal n).length ≤ k ↔ n < 10 ^ k := by
  rw [decimal, List.length_map]
  exact Nat.length_toDigits_le_iff (by decide) h

/-- An `int` is at most eleven characters, its sign included. -/
theorem length_decimalInt_le (n : UInt32) : (decimalInt n).length ≤ 11 := by
  have hn : n.toNat < 2 ^ 32 := n.toNat_lt
  have hpow : 2 ^ 32 < 10 ^ 10 := by decide
  unfold decimalInt
  split
  · have h := (length_decimal_le_iff (n := n.toNat) (show 0 < 10 by decide)).mpr (by omega)
    omega
  · have h := (length_decimal_le_iff (n := 2 ^ 32 - n.toNat) (show 0 < 10 by decide)).mpr
      (by omega)
    rw [List.length_cons]
    omega

/-- `%08x` is eight characters. -/
theorem length_hex08 (n : UInt32) : (hex08 n).length = 8 := by
  have hn : n.toNat < 16 ^ 8 := n.toNat_lt
  have hdigits := (Nat.length_toDigits_le_iff (b := 16) (by decide) (show 0 < 8 by decide)).mpr hn
  unfold hex08
  rw [List.length_append, List.length_replicate, List.length_map]
  omega

/-- The byte of a digit. -/
theorem toNat_digit {n : ℕ} (h : n < 10) : n.digitChar.toNat.toUInt8.toNat = 48 + n := by
  rw [Nat.toNat_digitChar_of_lt_ten h]
  exact UInt8.toNat_ofNat_of_lt' (show 48 + n < 256 by omega)

/-- The byte of a digit is a digit. -/
theorem isDigit_digit {n : ℕ} (h : n < 10) : isDigit n.digitChar.toNat.toUInt8 = true := by
  have hn := toNat_digit h
  simp only [isDigit, UInt8.le_iff_toNat_le, hn, decide_eq_true_eq]
  constructor
  · exact Nat.le_add_right 48 n
  · exact Nat.add_le_add_left (Nat.le_of_lt_succ h) 48

/-- A number is written in digits. -/
theorem isDigit_of_mem_decimal {n : ℕ} {b : UInt8} (h : b ∈ decimal n) : isDigit b = true := by
  induction n using Nat.strong_induction_on with
  | _ n ih =>
    by_cases hn : n < 10
    · rw [decimal_of_lt hn, List.mem_singleton] at h
      rw [h]
      exact isDigit_digit hn
    · rw [decimal_of_ge (by omega), List.mem_append, List.mem_singleton] at h
      rcases h with h | h
      · exact ih (n / 10) (by omega) h
      · rw [h]
        exact isDigit_digit (Nat.mod_lt n (by decide))

/-- The digits of a number have its value. -/
theorem digitsValue_decimal (n : ℕ) : digitsValue (decimal n) = n := by
  have hone : ∀ b : UInt8, digitsValue [b] = b.toNat - 48 := by
    intro b
    simp [digitsValue]
  induction n using Nat.strong_induction_on with
  | _ n ih =>
    by_cases hn : n < 10
    · rw [decimal_of_lt hn, hone, toNat_digit hn]
      omega
    · rw [decimal_of_ge (by omega), digitsValue_append, ih (n / 10) (by omega), hone,
        toNat_digit (Nat.mod_lt n (by decide)), List.length_singleton]
      omega

/-- No beginning of a positive number reads as zero. -/
theorem digitsValue_take_decimal_pos {n i : ℕ} (hn : 0 < n) (hi : 0 < i) :
    0 < digitsValue ((decimal n).take i) := by
  induction n using Nat.strong_induction_on with
  | _ n ih =>
    by_cases hwhole : (decimal n).length ≤ i
    · rw [List.take_of_length_le hwhole, digitsValue_decimal]
      exact hn
    · have hge : 10 ≤ n := by
        by_contra hlt
        rw [decimal_of_lt (by omega), List.length_singleton] at hwhole
        omega
      rw [decimal_of_ge hge, List.length_append, List.length_singleton] at hwhole
      rw [decimal_of_ge hge, List.take_append_of_le_length (by omega)]
      exact ih (n / 10) (by omega) (by omega)

/-- A digit is no space. -/
theorem isSpace_eq_false_of_isDigit {b : UInt8} (h : isDigit b = true) : isSpace b = false := by
  simp only [isDigit, decide_eq_true_eq, UInt8.le_iff_toNat_le] at h
  have h48 : 48 ≤ b.toNat := h.1
  simp only [isSpace, decide_eq_false_iff_not, UInt8.le_iff_toNat_le]
  rintro (rfl | ⟨-, h13⟩)
  · exact absurd h48 (by decide)
  · have h13' : b.toNat ≤ 13 := h13
    omega

/-- No space is skipped in front of digits. -/
theorem dropWhile_isSpace_digits (digits rest : List UInt8) (hne : digits ≠ [])
    (hdigits : ∀ b ∈ digits, isDigit b = true) :
    (digits ++ rest).dropWhile isSpace = digits ++ rest := by
  obtain ⟨b, digits, rfl⟩ := List.exists_cons_of_ne_nil hne
  have hb := isSpace_eq_false_of_isDigit (hdigits b List.mem_cons_self)
  rw [List.cons_append, List.dropWhile_cons_of_neg (by simp [hb])]

/-- `%hu` at the digits of a number of 16 bits. -/
theorem scanShort_digits {digits : List UInt8} {n : UInt16} (hne : digits ≠ [])
    (hdigits : ∀ b ∈ digits, isDigit b = true) (hvalue : digitsValue digits = n.toNat) :
    scanShort digits = some n := by
  obtain ⟨b, rest, rfl⟩ := List.exists_cons_of_ne_nil hne
  have hb := hdigits b List.mem_cons_self
  have hspace : (b :: rest).dropWhile isSpace = b :: rest :=
    List.dropWhile_cons_of_neg (by simp [isSpace_eq_false_of_isDigit hb])
  have hsign : scanSign (b :: rest) = [] := by
    have hne : ¬ (b = 43 ∨ b = 45) := by
      rintro (rfl | rfl) <;> exact absurd hb (by decide)
    simp [scanSign, hne]
  have hall : (b :: rest).takeWhile isDigit = b :: rest := List.takeWhile_eq_self_iff.mpr hdigits
  have hsmall : ¬ 2 ^ 64 ≤ n.toNat := by
    have := n.toNat_lt
    omega
  unfold scanShort
  simp only [hspace, hsign, List.length_nil, List.drop_zero, hall, hvalue, signedMagnitude,
    if_neg hne, if_neg hsmall]
  simp

/-- After blanks and a sign there is a digit. -/
def HasNumber (text : List UInt8) : Prop :=
  ∃ blanks sign digit rest, text = blanks ++ (sign ++ digit :: rest) ∧
    (∀ b ∈ blanks, isSpace b = true) ∧ (sign = [] ∨ sign = [43] ∨ sign = [45]) ∧
      isDigit digit = true

/-- A sign is taken from the front of the text, or none is. -/
theorem scanSign_append (text : List UInt8) :
    scanSign text ++ text.drop (scanSign text).length = text ∧
      (scanSign text = [] ∨ scanSign text = [43] ∨ scanSign text = [45]) := by
  cases text with
  | nil => exact ⟨rfl, .inl rfl⟩
  | cons b text =>
    by_cases hb : b = 43 ∨ b = 45
    · have hsign : scanSign (b :: text) = [b] := by
        simp [scanSign, hb]
      rw [hsign]
      refine ⟨rfl, .inr ?_⟩
      rcases hb with rfl | rfl
      · exact .inl rfl
      · exact .inr rfl
    · have hsign : scanSign (b :: text) = [] := by
        simp [scanSign, hb]
      rw [hsign]
      exact ⟨rfl, .inl rfl⟩

/-- The sign in front of a digit is the one that is taken. -/
theorem scanSign_signed {sign rest : List UInt8} {digit : UInt8}
    (hsign : sign = [] ∨ sign = [43] ∨ sign = [45]) (hdigit : isDigit digit = true) :
    scanSign (sign ++ digit :: rest) = sign := by
  rcases hsign with rfl | rfl | rfl
  · have hne : ¬ (digit = 43 ∨ digit = 45) := by
      rintro (rfl | rfl) <;> exact absurd hdigit (by decide)
    simp [scanSign, hne]
  · rfl
  · rfl

/-- **What `%hu` reads.** -/
theorem scanShort_eq_none_iff (text : List UInt8) : scanShort text = none ↔ ¬ HasNumber text := by
  unfold scanShort
  constructor
  · rintro h ⟨blanks, sign, digit, rest, rfl, hblanks, hsign, hdigit⟩
    have hhead : ∀ b ∈ (sign ++ digit :: rest).head?, isSpace b = false := by
      intro b hb
      rcases hsign with rfl | rfl | rfl
      · cases hb
        exact isSpace_eq_false_of_isDigit hdigit
      · cases hb
        rfl
      · cases hb
        rfl
    rw [dropWhile_append_of_all hblanks hhead] at h
    simp only [scanSign_signed hsign hdigit, List.drop_left, List.takeWhile_cons_of_pos hdigit] at h
    rw [if_neg (List.cons_ne_nil _ _)] at h
    cases h
  · intro hnumber
    have hsplit := List.takeWhile_append_dropWhile (p := isSpace) (l := text)
    generalize text.dropWhile isSpace = after at hsplit ⊢
    obtain ⟨happend, hsign⟩ := scanSign_append after
    refine if_pos ?_
    by_contra hdigits
    generalize after.drop (scanSign after).length = rest at happend hdigits
    cases rest with
    | nil => exact hdigits rfl
    | cons digit rest =>
      refine hnumber ⟨text.takeWhile isSpace, scanSign after, digit, rest, ?_, ?_, hsign, ?_⟩
      · rw [happend, hsplit]
      · intro b hb
        exact List.mem_takeWhile_imp hb
      · by_contra hdigit
        exact hdigits (List.takeWhile_cons_of_neg hdigit)

/-- The number a string of hexadecimal digits denotes. -/
def hexValue (digits : List UInt8) : ℕ :=
  (digits.filterMap hexDigit?).foldl (fun value d => 16 * value + d) 0

/-- The text is a hexadecimal number, with `0x` before it or without. -/
def IsHex (text : List UInt8) (n : ℕ) : Prop :=
  ∃ digits, (text = digits ∨ text = 48 :: 120 :: digits ∨ text = 48 :: 88 :: digits) ∧
    digits ≠ [] ∧ (∀ b ∈ digits, (hexDigit? b).isSome = true) ∧ hexValue digits = n

/-- A hexadecimal digit is no white space, no sign and no `x`. -/
theorem plain_of_hexDigit {b : UInt8} (h : (hexDigit? b).isSome = true) :
    isSpace b = false ∧ b ≠ 43 ∧ b ≠ 45 ∧ b ≠ 120 ∧ b ≠ 88 := by
  refine ⟨?_, ?_, ?_, ?_, ?_⟩
  · by_contra hspace
    simp only [Bool.not_eq_false, isSpace, decide_eq_true_eq, UInt8.le_iff_toNat_le] at hspace
    have hsmall : b.toNat ≤ 32 := by
      rcases hspace with rfl | ⟨-, hle⟩
      · exact le_rfl
      · exact Nat.le_trans hle (show 13 ≤ 32 by omega)
    unfold hexDigit? at h
    simp only [UInt8.le_iff_toNat_le] at h
    split_ifs at h with h1 h2 h3
    · exact absurd (Nat.le_trans h1.1 hsmall) (by decide)
    · exact absurd (Nat.le_trans h2.1 hsmall) (by decide)
    · exact absurd (Nat.le_trans h3.1 hsmall) (by decide)
    · cases h
  all_goals
    rintro rfl
    exact absurd h (by decide)

/-- **What `%x` reads.** -/
theorem scanHex_of_isHex {text : List UInt8} {n : ℕ} (h : IsHex text n) (hn : n < 2 ^ 32) :
    scanHex text = some (UInt32.ofNat n) := by
  obtain ⟨digits, htext, hne, hdigits, hvalue⟩ := h
  obtain ⟨d, rest, rfl⟩ := List.exists_cons_of_ne_nil hne
  obtain ⟨hspace, hplus, hminus, hx, hX⟩ := plain_of_hexDigit (hdigits d List.mem_cons_self)
  -- nothing is skipped at the beginning but a prefix
  have hstart : text.dropWhile isSpace = text ∧ scanSign text = [] := by
    rcases htext with rfl | rfl | rfl
    · exact ⟨List.dropWhile_cons_of_neg (by simp [hspace]), by simp [scanSign, hplus, hminus]⟩
    · exact ⟨rfl, rfl⟩
    · exact ⟨rfl, rfl⟩
  have hbegin : (if text.take 2 = [48, 120] ∨ text.take 2 = [48, 88] then text.drop 2 else text) =
      d :: rest := by
    rcases htext with rfl | rfl | rfl
    · refine if_neg ?_
      rcases rest with _ | ⟨e, rest⟩
      · simp
      · obtain ⟨-, -, -, hx', hX'⟩ :=
          plain_of_hexDigit (hdigits e (List.mem_cons_of_mem _ List.mem_cons_self))
        simp [hx', hX']
    · exact if_pos (.inl rfl)
    · exact if_pos (.inr rfl)
  have hall : (d :: rest).takeWhile (fun b => (hexDigit? b).isSome) = d :: rest :=
    List.takeWhile_eq_self_iff.mpr hdigits
  have hvalues : (d :: rest).filterMap hexDigit? ≠ [] := by
    obtain ⟨v, hv⟩ := Option.isSome_iff_exists.mp (hdigits d List.mem_cons_self)
    rw [List.filterMap_cons_some hv]
    exact List.cons_ne_nil _ _
  have hsmall : ¬ 2 ^ 64 ≤ n := by omega
  unfold scanHex
  simp only [hstart.1, hstart.2, List.length_nil, List.drop_zero, hbegin, hall, if_neg hvalues]
  show some (UInt32.ofNat (signedMagnitude [] (hexValue (d :: rest)))) = _
  rw [hvalue, signedMagnitude, if_neg hsmall]
  rfl

/-- **What `%d` finds.**  Digits that end where the width ends, or before a text that begins
with no digit, are read as the number they denote. -/
theorem scanInt_digits (width : Option ℕ) (digits rest : List UInt8) (hne : digits ≠ [])
    (hwithin : (within width (digits ++ rest)).takeWhile isDigit = digits) :
    scanInt width (digits ++ rest) = some ((digitsValue digits : ℤ), rest) := by
  have hsigns : ((within width (digits ++ rest)).take 1).filter
      (fun b => decide (b = 43 ∨ b = 45)) = [] := by
    rcases hfield : within width (digits ++ rest) with _ | ⟨b, field⟩
    · rfl
    · rw [hfield] at hwithin
      have hb : isDigit b = true := by
        by_contra hb
        rw [List.takeWhile_cons_of_neg hb] at hwithin
        exact hne hwithin.symm
      have hsign : ¬ (b = 43 ∨ b = 45) := by
        rintro (rfl | rfl) <;> exact absurd hb (by decide)
      simp [hsign]
  unfold scanInt
  simp only [hsigns, List.length_nil, List.drop_zero, hwithin, if_neg hne, Nat.zero_add,
    List.drop_left]
  rfl

/-- The digits are taken up to what is none. -/
theorem takeWhile_isDigit_append (digits rest : List UInt8)
    (hdigits : ∀ b ∈ digits, isDigit b = true) (hrest : ∀ b ∈ rest.head?, isDigit b = false) :
    (digits ++ rest).takeWhile isDigit = digits := by
  rw [List.takeWhile_append_of_pos hdigits]
  rcases rest with _ | ⟨b, rest⟩
  · simp
  · have hb := hrest b rfl
    rw [List.takeWhile_cons_of_neg (by simp [hb]), List.append_nil]

/-- A number ends before what is no digit. -/
theorem decimal_append_inj {n m : ℕ} {b : UInt8} {rest rest' : List UInt8}
    (hb : isDigit b = false) (h : decimal n ++ b :: rest = decimal m ++ b :: rest') :
    n = m ∧ rest = rest' := by
  have hread : ∀ k r, (decimal k ++ b :: r).takeWhile isDigit = decimal k := by
    intro k r
    apply takeWhile_isDigit_append _ _ fun c hc => isDigit_of_mem_decimal hc
    intro c hc
    rw [List.head?_cons, Option.mem_some_iff] at hc
    rw [← hc, hb]
  have hdigits : decimal n = decimal m := by
    rw [← hread n rest, h, hread]
  refine ⟨?_, ?_⟩
  · rw [← digitsValue_decimal n, hdigits, digitsValue_decimal]
  · rw [hdigits] at h
    exact (List.cons.inj (List.append_cancel_left h)).2

/-- `%d` at digits that are all of the number. -/
theorem sscanf_int (width : Option ℕ) (format : List Directive) (digits rest : List UInt8)
    (hne : digits ≠ []) (hdigits : ∀ b ∈ digits, isDigit b = true)
    (hwithin : (within width (digits ++ rest)).takeWhile isDigit = digits) :
    sscanf (.int width :: format) (digits ++ rest) =
      .int (digitsValue digits) :: sscanf format rest := by
  rw [sscanf, dropWhile_isSpace_digits _ _ hne hdigits, scanInt_digits _ _ _ hne hwithin]

/-- `%3d` and the like at a number of as many digits. -/
theorem sscanf_decimal (format : List Directive) (n : ℕ) (rest : List UInt8) :
    sscanf (.int (some (decimal n).length) :: format) (decimal n ++ rest) =
      .int n :: sscanf format rest := by
  have hdigits : ∀ b ∈ decimal n, isDigit b = true := fun b hb => isDigit_of_mem_decimal hb
  rw [sscanf_int _ _ _ _ (decimal_ne_nil n) hdigits, digitsValue_decimal]
  rw [within, List.take_left' rfl]
  exact List.takeWhile_eq_self_iff.mpr hdigits

/-! ## Hexadecimal numbers as they are written -/

/-- The digits of a number in base 16, as `%x` in `sprintf` writes them. -/
def hexDigits (n : ℕ) : List UInt8 := (Nat.toDigits 16 n).map fun c => c.toNat.toUInt8

/-- The character of a hexadecimal digit has its value. -/
theorem hexDigit_digitChar {d : ℕ} (h : d < 16) :
    hexDigit? d.digitChar.toNat.toUInt8 = some d := by
  interval_cases d <;> rfl

/-- A number below sixteen has one hexadecimal digit. -/
theorem hexDigits_of_lt {n : ℕ} (h : n < 16) :
    hexDigits n = [n.digitChar.toNat.toUInt8] := by
  rw [hexDigits, Nat.toDigits_of_lt_base h]
  rfl

/-- A number from sixteen on has its last digit behind those of a sixteenth of it. -/
theorem hexDigits_of_ge {n : ℕ} (h : 16 ≤ n) :
    hexDigits n = hexDigits (n / 16) ++ [(n % 16).digitChar.toNat.toUInt8] := by
  rw [hexDigits, Nat.toDigits_of_base_le (by decide) h, List.map_append]
  rfl

/-- The value of digits with one more digit. -/
theorem hexValue_concat (digits : List UInt8) {b : UInt8} {d : ℕ} (hb : hexDigit? b = some d) :
    hexValue (digits ++ [b]) = 16 * hexValue digits + d := by
  unfold hexValue
  rw [List.filterMap_append, List.foldl_append, List.filterMap_cons_some hb]
  rfl

/-- The hexadecimal digits of a number have its value. -/
theorem hexValue_hexDigits (n : ℕ) : hexValue (hexDigits n) = n := by
  induction n using Nat.strong_induction_on with
  | _ n ih =>
    by_cases hn : n < 16
    · rw [hexDigits_of_lt hn, ← List.nil_append [_], hexValue_concat [] (hexDigit_digitChar hn)]
      exact Nat.zero_add n
    · rw [hexDigits_of_ge (by omega),
        hexValue_concat _ (hexDigit_digitChar (Nat.mod_lt n (by decide))), ih (n / 16) (by omega)]
      omega

/-- A number is written in hexadecimal digits. -/
theorem isSome_of_mem_hexDigits {n : ℕ} {b : UInt8} (h : b ∈ hexDigits n) :
    (hexDigit? b).isSome = true := by
  induction n using Nat.strong_induction_on with
  | _ n ih =>
    by_cases hn : n < 16
    · rw [hexDigits_of_lt hn, List.mem_singleton] at h
      rw [h, hexDigit_digitChar hn]
      rfl
    · rw [hexDigits_of_ge (by omega), List.mem_append, List.mem_singleton] at h
      rcases h with h | h
      · exact ih (n / 16) (by omega) h
      · rw [h, hexDigit_digitChar (Nat.mod_lt n (by decide))]
        rfl

/-- Zeros in front make no difference. -/
theorem hexValue_zeros (k : ℕ) (digits : List UInt8) :
    hexValue (List.replicate k 48 ++ digits) = hexValue digits := by
  have hzero : hexDigit? 48 = some 0 := rfl
  induction k with
  | zero => rfl
  | succ k ih =>
    rw [← ih, List.replicate_succ, List.cons_append, hexValue, List.filterMap_cons_some hzero]
    rfl

/-- **What `%08x` writes** is a hexadecimal number. -/
theorem isHex_hex08 (n : UInt32) : IsHex (48 :: 120 :: hex08 n) n.toNat := by
  have hdigits : hex08 n = List.replicate (8 - (hexDigits n.toNat).length) 48 ++
      hexDigits n.toNat := rfl
  refine ⟨hex08 n, .inr (.inl rfl), ?_, ?_, ?_⟩
  · rw [← List.length_pos_iff, length_hex08]
    decide
  · intro b hb
    rw [hdigits, List.mem_append] at hb
    rcases hb with hb | hb
    · rw [List.eq_of_mem_replicate hb]
      rfl
    · exact isSome_of_mem_hexDigits hb
  · rw [hdigits, hexValue_zeros, hexValue_hexDigits]

/-! ## Longer texts -/

/-- What is skipped does not depend on what comes behind the rest. -/
theorem dropWhile_append_of_ne_nil {p : UInt8 → Bool} {text : List UInt8}
    (h : text.dropWhile p ≠ []) (more : List UInt8) :
    (text ++ more).dropWhile p = text.dropWhile p ++ more := by
  rw [List.dropWhile_append, if_neg]
  rwa [List.isEmpty_iff]

/-- More text leaves what is taken from the front. -/
theorem takeWhile_append_ne_nil {p : UInt8 → Bool} {text : List UInt8}
    (h : text.takeWhile p ≠ []) (more : List UInt8) : (text ++ more).takeWhile p ≠ [] := by
  cases text with
  | nil => exact absurd rfl h
  | cons b text =>
    by_cases hb : p b = true
    · rw [List.cons_append, List.takeWhile_cons_of_pos hb]
      exact List.cons_ne_nil _ _
    · rw [List.takeWhile_cons_of_neg hb] at h
      exact absurd rfl h

/-- A number is read from a text that is not empty. -/
theorem scanInt_ne_nil {width : Option ℕ} {text : List UInt8} {r : ℤ × List UInt8}
    (h : scanInt width text = some r) : text ≠ [] := by
  rintro rfl
  have hfield : within width [] = [] := by
    cases width with
    | none => rfl
    | some n => exact List.take_nil
  unfold scanInt at h
  rw [hfield] at h
  cases h

/-- A number that is read is also read from a longer text, with more digits perhaps. -/
theorem scanInt_append {width : Option ℕ} {text : List UInt8} {r : ℤ × List UInt8}
    (h : scanInt width text = some r) (more : List UInt8) :
    (scanInt width (text ++ more)).isSome = true := by
  obtain ⟨later, hlater⟩ : ∃ later, within width (text ++ more) = within width text ++ later := by
    cases width with
    | none => exact ⟨more, rfl⟩
    | some n => exact ⟨_, List.take_append⟩
  unfold scanInt at h ⊢
  rw [hlater]
  generalize within width text = field at h ⊢
  cases field with
  | nil => cases h
  | cons b field =>
    have htake : (b :: field ++ later).take 1 = (b :: field).take 1 := rfl
    simp only [htake] at h ⊢
    generalize hsigns : ((b :: field).take 1).filter (fun b => b = 43 ∨ b = 45) = signs at h ⊢
    have hlength : signs.length ≤ (b :: field).length := by
      rw [← hsigns]
      refine Nat.le_trans (List.length_filter_le _ _) ?_
      rw [List.length_take]
      omega
    rw [List.drop_append_of_le_length hlength]
    by_cases hdigits : ((b :: field).drop signs.length).takeWhile isDigit = []
    · rw [if_pos hdigits] at h
      cases h
    · rw [if_neg (takeWhile_append_ne_nil hdigits later)]
      rfl

/-- `%1d` reads one digit. -/
theorem scanInt_one (b : UInt8) (text : List UInt8) :
    scanInt (some 1) (b :: text) =
      if isDigit b = true then some ((digitsValue [b] : ℤ), text) else none := by
  have hfield : within (some 1) (b :: text) = [b] := rfl
  unfold scanInt
  rw [hfield]
  by_cases hsign : b = 43 ∨ b = 45
  · have hdigit : ¬ isDigit b = true := by
      rcases hsign with rfl | rfl <;> decide
    simp [hsign, hdigit]
  · by_cases hdigit : isDigit b = true
    · simp [hsign, hdigit]
    · simp [hsign, hdigit]

/-- A number of one digit is the same with more text behind it. -/
theorem scanInt_one_append {text rest : List UInt8} {value : ℤ}
    (h : scanInt (some 1) text = some (value, rest)) (more : List UInt8) :
    scanInt (some 1) (text ++ more) = some (value, rest ++ more) := by
  cases text with
  | nil => cases h
  | cons b text =>
    rw [scanInt_one] at h
    rw [List.cons_append, scanInt_one]
    by_cases hdigit : isDigit b = true
    · rw [if_pos hdigit] at h ⊢
      cases h
      rfl
    · rw [if_neg hdigit] at h
      cases h

end MirrorLink.Library
