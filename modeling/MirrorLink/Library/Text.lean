import Mathlib.Data.List.Infix
import Mathlib.Tactic.Ring

/-!
# Texts in memory: ends, tokens and the first occurrence of a word

A text in memory ends at its first zero byte (`cstring`).  `tokens` cuts a text at every
separator and drops the empty pieces, as repeated calls of `strtok` do.  `strstr` finds the
first occurrence of a word and returns the text from there on.

The rules for `strstr` are about where the first occurrence can be: behind what it cannot
begin in (`strstr_append`, `strstr_skip`), and in a beginning of the text that reaches to
its end, where nothing else can be found (`strstr_take`).
-/

set_option autoImplicit false

namespace MirrorLink.Library

variable {α : Type} [DecidableEq α]

/-- The text that begins at the start of `mem`. -/
def cstring (mem : List UInt8) : List UInt8 := mem.takeWhile (· ≠ 0)

/-- The non-empty pieces of `text` between separators. -/
def tokens (separator : α) (text : List α) : List (List α) :=
  (text.splitOn separator).filter (· ≠ [])

/-- `text` from the first occurrence of `word` on. -/
def strstr (word : List α) : List α → Option (List α)
  | [] => if word = [] then some [] else none
  | a :: text => if word.isPrefixOf (a :: text) then some (a :: text) else strstr word text

/-- What stands behind the zero does not count. -/
theorem cstring_append_of_mem {text : List UInt8} (h : (0 : UInt8) ∈ text)
    (rest : List UInt8) : cstring (text ++ rest) = cstring text := by
  induction text with
  | nil => exact absurd h List.not_mem_nil
  | cons b text ih =>
    by_cases hb : b = 0
    · simp [cstring, hb]
    · rw [List.mem_cons] at h
      have htext := ih (h.resolve_left (Ne.symm hb))
      unfold cstring at htext ⊢
      rw [List.cons_append, List.takeWhile_cons, List.takeWhile_cons, htext]

/-- Text without a zero is part of the string. -/
theorem cstring_append {text : List UInt8} (h : (0 : UInt8) ∉ text) (rest : List UInt8) :
    cstring (text ++ rest) = text ++ cstring rest := by
  apply List.takeWhile_append_of_pos
  intro b hb
  have hne : b ≠ 0 := fun h0 => h (h0 ▸ hb)
  simp [hne]

/-- Zeros behind a text end it. -/
theorem cstring_append_zeros (text : List UInt8) (n : ℕ) (h : (0 : UInt8) ∉ text) :
    cstring (text ++ List.replicate n 0) = text := by
  rw [cstring_append h]
  cases n <;> simp [cstring, List.replicate_succ]

/-- A text without a zero is its own string. -/
theorem cstring_eq_self {text : List UInt8} (h : (0 : UInt8) ∉ text) : cstring text = text := by
  have hzeros := cstring_append_zeros text 0 h
  rwa [List.replicate_zero, List.append_nil] at hzeros

/-- More text makes the string no shorter. -/
theorem cstring_prefix {text text' : List UInt8} (h : text <+: text') :
    cstring text <+: cstring text' := by
  obtain ⟨rest, rfl⟩ := h
  by_cases hzero : (0 : UInt8) ∈ text
  · rw [cstring_append_of_mem hzero]
  · rw [cstring_append hzero, cstring_eq_self hzero]
    exact List.prefix_append _ _

/-- There is no zero in a string. -/
theorem zero_not_mem_cstring (text : List UInt8) : (0 : UInt8) ∉ cstring text := by
  intro hmem
  have hall := List.all_eq_true.mp List.all_takeWhile 0 hmem
  simp at hall

/-- The tokens in front of a separator and behind it. -/
theorem tokens_append (separator : α) (text rest : List α) :
    tokens separator (text ++ separator :: rest) =
      tokens separator text ++ tokens separator rest := by
  rw [tokens, List.splitOn_append_cons_self, List.filter_append]
  rfl

/-- A token is a part of the text.  The induction goes from separator to separator. -/
theorem infix_of_mem_tokens {separator : α} {text piece : List α}
    (h : piece ∈ tokens separator text) : piece <:+: text := by
  have hmem : piece ∈ text.splitOn separator := List.mem_of_mem_filter h
  clear h
  induction hlength : text.length using Nat.strong_induction_on generalizing text with
  | h n ih =>
    by_cases hsep : separator ∈ text
    · obtain ⟨before, after, rfl, hnot⟩ := List.eq_append_cons_of_mem hsep
      rw [List.splitOn_append_cons_self_of_not_mem hnot] at hmem
      rcases List.mem_cons.mp hmem with rfl | hmem
      · exact ⟨[], separator :: after, rfl⟩
      · have hlt : after.length < n := by
          rw [← hlength, List.length_append, List.length_cons]
          omega
        have hafter : after <:+: before ++ separator :: after :=
          ⟨before ++ [separator], [], by simp⟩
        exact (ih _ hlt hmem rfl).trans hafter
    · rw [List.splitOn_eq_singleton hsep, List.mem_singleton] at hmem
      rw [hmem]

/-! ## The first occurrence -/

/-- The word stands at the beginning. -/
theorem strstr_begin (word text : List α) (h : word <+: text) :
    strstr word text = some text := by
  cases text with
  | nil => simp [strstr, List.prefix_nil.mp h]
  | cons a text =>
    rw [strstr, if_pos (List.isPrefixOf_iff_prefix.mpr h)]

/-- The word does not stand here and is looked for further on. -/
theorem strstr_cons_skip (word : List α) (a : α) (text : List α)
    (h : ¬ word <+: a :: text) : strstr word (a :: text) = strstr word text := by
  rw [strstr, if_neg (fun hp => h (List.isPrefixOf_iff_prefix.mp hp))]

/-- **The first occurrence.**  If `word` begins `rest` and nowhere before it, it is found
there. -/
theorem strstr_append (word before rest : List α) (h : word <+: rest)
    (hfirst : ∀ i < before.length, ¬ word <+: (before ++ rest).drop i) :
    strstr word (before ++ rest) = some rest := by
  induction before with
  | nil => exact strstr_begin word rest h
  | cons a before ih =>
    have h0 : ¬ word <+: a :: (before ++ rest) := hfirst 0 (by simp)
    rw [List.cons_append, strstr_cons_skip _ _ _ h0]
    apply ih
    intro i hi
    exact hfirst (i + 1) (by simpa using hi)

/-- A word cannot begin where its first letter does not stand. -/
theorem strstr_skip (a : α) (word before rest : List α) (h : a ∉ before) :
    strstr (a :: word) (before ++ rest) = strstr (a :: word) rest := by
  induction before with
  | nil => rfl
  | cons b before ih =>
    rw [List.mem_cons, not_or] at h
    have h0 : ¬ a :: word <+: b :: (before ++ rest) := by
      intro hp
      exact h.1 (List.cons_prefix_cons.mp hp).1
    rw [List.cons_append, strstr_cons_skip _ _ _ h0]
    exact ih h.2

/-- The word stands nowhere. -/
theorem strstr_eq_none (word text : List α) (h : ∀ i ≤ text.length, ¬ word <+: text.drop i) :
    strstr word text = none := by
  induction text with
  | nil =>
    have hne : word ≠ [] := by
      rintro rfl
      exact h 0 le_rfl (List.prefix_refl _)
    simp [strstr, hne]
  | cons a text ih =>
    rw [strstr_cons_skip _ _ _ (h 0 (Nat.zero_le _))]
    apply ih
    intro i hi
    exact h (i + 1) (by simpa using hi)

/-- What is found is the end of the text. -/
theorem strstr_suffix {word text rest : List α} (h : strstr word text = some rest) :
    rest <:+ text := by
  induction text with
  | nil =>
    by_cases hw : word = []
    · rw [strstr, if_pos hw, Option.some.injEq] at h
      rw [← h]
    · rw [strstr, if_neg hw] at h
      cases h
  | cons a text ih =>
    by_cases hp : word <+: a :: text
    · rw [strstr_begin _ _ hp, Option.some.injEq] at h
      rw [← h]
    · rw [strstr_cons_skip _ _ _ hp] at h
      exact (ih h).trans (List.suffix_cons a text)

/-- No occurrence is before the first. -/
theorem le_of_strstr {word text rest : List α} (h : strstr word text = some rest) {j : ℕ}
    (hj : word <+: text.drop j) : text.length - rest.length ≤ j := by
  induction text generalizing j with
  | nil => exact Nat.le_trans (Nat.sub_le _ _) (Nat.zero_le j)
  | cons a text ih =>
    by_cases hp : word <+: a :: text
    · rw [strstr_begin _ _ hp, Option.some.injEq] at h
      rw [← h, Nat.sub_self]
      exact Nat.zero_le j
    · cases j with
      | zero => exact absurd hj hp
      | succ j =>
        rw [strstr_cons_skip _ _ _ hp] at h
        have hle := ih h hj
        rw [List.length_cons]
        omega

/-- What is found begins with the word. -/
theorem prefix_of_strstr {word text rest : List α} (h : strstr word text = some rest) :
    word <+: rest := by
  induction text with
  | nil =>
    by_cases hw : word = []
    · rw [hw]
      exact List.nil_prefix
    · rw [strstr, if_neg hw] at h
      cases h
  | cons a text ih =>
    by_cases hp : word <+: a :: text
    · rw [strstr_begin _ _ hp, Option.some.injEq] at h
      rwa [← h]
    · rw [strstr_cons_skip _ _ _ hp] at h
      exact ih h

/-- **Beginnings of a text.**  A beginning has the first occurrence of the text if it reaches
to the end of it, and none otherwise. -/
theorem strstr_take {word text rest : List α} (hword : word ≠ [])
    (h : strstr word text = some rest) (j : ℕ) :
    strstr word (text.take j) =
      if j < text.length - rest.length + word.length then none
      else some (rest.take (j - (text.length - rest.length))) := by
  induction text generalizing j with
  | nil =>
    rw [strstr, if_neg hword] at h
    cases h
  | cons a text ih =>
    by_cases hp : word <+: a :: text
    · rw [strstr_begin _ _ hp, Option.some.injEq] at h
      rw [← h, Nat.sub_self, Nat.zero_add, Nat.sub_zero]
      by_cases hj : j < word.length
      · rw [if_pos hj]
        apply strstr_eq_none
        intro i _ hi
        have hlen := hi.length_le
        rw [List.length_drop, List.length_take] at hlen
        omega
      · rw [if_neg hj]
        apply strstr_begin
        exact List.prefix_take_iff.mpr ⟨hp, by omega⟩
    · rw [strstr_cons_skip _ _ _ hp] at h
      have hsub : (a :: text).length - rest.length = text.length - rest.length + 1 := by
        have := (strstr_suffix h).length_le
        rw [List.length_cons]
        omega
      rw [hsub]
      cases j with
      | zero =>
        have hpos := List.length_pos_iff.mpr hword
        rw [if_pos (by omega), List.take_zero, strstr, if_neg hword]
      | succ j =>
        have h0 : ¬ word <+: a :: text.take j := by
          intro hq
          exact hp (hq.trans (List.take_prefix (j + 1) (a :: text)))
        rw [List.take_succ_cons, strstr_cons_skip _ _ _ h0, ih h j]
        have hlt : (j < text.length - rest.length + word.length) ↔
            (j + 1 < text.length - rest.length + 1 + word.length) := by omega
        have heq : j + 1 - (text.length - rest.length + 1) = j - (text.length - rest.length) := by
          omega
        simp only [hlt, heq]

/-- What occurs nowhere in a text occurs in no beginning of it. -/
theorem strstr_take_eq_none (word text : List α) (h : ∀ i, ¬ word <+: text.drop i) (j : ℕ) :
    strstr word (text.take j) = none := by
  apply strstr_eq_none
  intro i _ hi
  rw [List.drop_take] at hi
  exact h i (hi.trans (List.take_prefix _ _))

/-- A word is found exactly if it is a part of the text. -/
theorem strstr_isSome_iff (word text : List α) :
    (strstr word text).isSome = true ↔ word <:+: text := by
  constructor
  · intro h
    obtain ⟨rest, hrest⟩ := Option.isSome_iff_exists.mp h
    exact (prefix_of_strstr hrest).isInfix.trans (strstr_suffix hrest).isInfix
  · intro h
    induction text with
    | nil =>
      rw [strstr, if_pos (List.infix_nil.mp h)]
      rfl
    | cons a text ih =>
      by_cases hbegin : word <+: a :: text
      · rw [strstr_begin _ _ hbegin]
        rfl
      · rw [strstr_cons_skip _ _ _ hbegin]
        exact ih ((List.infix_cons_iff.mp h).resolve_left hbegin)

/-- Where a word does not begin before `rest`, it is looked for in `rest`. -/
theorem strstr_append_skip (word before rest : List α)
    (h : ∀ i < before.length, ¬ word <+: (before ++ rest).drop i) :
    strstr word (before ++ rest) = strstr word rest := by
  induction before with
  | nil => rfl
  | cons a before ih =>
    have h0 : ¬ word <+: a :: (before ++ rest) := h 0 (by simp)
    rw [List.cons_append, strstr_cons_skip _ _ _ h0]
    apply ih
    intro i hi
    exact h (i + 1) (by simpa using hi)

omit [DecidableEq α] in
/-- A word without the letter that follows `text` begins there only if it is in `text`. -/
theorem begins_of_append {word text rest : List α} (hrest : ∀ a ∈ rest.head?, a ∉ word)
    (h : word <+: text ++ rest) : word <+: text := by
  rcases List.prefix_or_prefix_of_prefix h (List.prefix_append text rest) with hbegin | ⟨more, rfl⟩
  · exact hbegin
  · have hmore := (List.prefix_append_right_inj text).mp h
    cases rest with
    | nil => rw [List.prefix_nil.mp hmore, List.append_nil]
    | cons a rest =>
      cases more with
      | nil => rw [List.append_nil]
      | cons b more =>
        have hab := (List.cons_prefix_cons.mp hmore).1
        exact absurd (by simp [hab]) (hrest a rfl)

/-! ## The first separator -/

/-- A word is taken up to the first of the characters it does not have. -/
theorem takeWhile_ne {a : α} {word : List α} (h : a ∉ word) (rest : List α) :
    (word ++ a :: rest).takeWhile (· ≠ a) = word := by
  have hkeep : ∀ b ∈ word, decide (b ≠ a) = true :=
    fun b hb => decide_eq_true fun hab => h (hab ▸ hb)
  rw [List.takeWhile_append_of_pos hkeep]
  simp

/-- And the character that ends it is left. -/
theorem dropWhile_ne {a : α} {word : List α} (h : a ∉ word) (rest : List α) :
    (word ++ a :: rest).dropWhile (· ≠ a) = a :: rest := by
  have hkeep : ∀ b ∈ word, decide (b ≠ a) = true :=
    fun b hb => decide_eq_true fun hab => h (hab ▸ hb)
  rw [List.dropWhile_append_of_pos hkeep]
  simp

end MirrorLink.Library
