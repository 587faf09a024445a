import MirrorLink.Analysis.HttpScan
import MirrorLink.Interface.HeaderNames
import Mathlib.Data.List.Forall2

/-!
# Names in other letters, and where words stand in a message

A word without the ends of lines begins within a line or nowhere (`exists_line_of_begins`), and a
word that ends in a colon stands there at the end of a field's name or in its value
(`infix_line`).  Names in small letters have no capital.
-/

set_option autoImplicit false

namespace MirrorLink.Analysis

open MirrorLink.Library MirrorLink.Program

/-! ## Letters -/

/-- Only capitals are changed. -/
theorem toLower_of_not_capital {b : UInt8} (h : ¬ (65 ≤ b ∧ b ≤ 90)) : toLower b = b := if_neg h

/-- A small letter is 32 behind its capital. -/
theorem toNat_toLower_of_capital {b : UInt8} (h : 65 ≤ b ∧ b ≤ 90) :
    (toLower b).toNat = b.toNat + 32 := by
  have hle : b.toNat ≤ 90 := UInt8.le_iff_toNat_le.mp h.2
  rw [toLower, if_pos h, UInt8.toNat_add]
  exact Nat.mod_eq_of_lt (show b.toNat + 32 < 256 by omega)

/-- No capital is left. -/
theorem not_capital_toLower (b : UInt8) : ¬ (65 ≤ toLower b ∧ toLower b ≤ 90) := by
  by_cases h : 65 ≤ b ∧ b ≤ 90
  · intro hlower
    have hge : 65 ≤ b.toNat := UInt8.le_iff_toNat_le.mp h.1
    have hle : (toLower b).toNat ≤ 90 := UInt8.le_iff_toNat_le.mp hlower.2
    rw [toNat_toLower_of_capital h] at hle
    omega
  · rwa [toLower_of_not_capital h]

/-- Nothing is left to change. -/
theorem toLower_toLower (b : UInt8) : toLower (toLower b) = toLower b :=
  toLower_of_not_capital (not_capital_toLower b)

/-- A name in small letters has no capital. -/
theorem not_mem_map_toLower {c : UInt8} (hc : 65 ≤ c ∧ c ≤ 90) (name : List UInt8) :
    c ∉ name.map toLower := by
  intro hmem
  obtain ⟨b, -, rfl⟩ := List.mem_map.mp hmem
  exact not_capital_toLower b hc

/-- Another spelling of a visible character is visible. -/
theorem visible_of_toLower {b c : UInt8} (h : toLower b = toLower c) (hc : 32 < c ∧ c ≠ 58) :
    32 < b ∧ b ≠ 58 := by
  by_cases hb : 65 ≤ b ∧ b ≤ 90
  · have hge : 65 ≤ b.toNat := UInt8.le_iff_toNat_le.mp hb.1
    refine ⟨UInt8.lt_iff_toNat_lt.mpr (show 32 < b.toNat by omega), ?_⟩
    rintro rfl
    exact absurd hge (by decide)
  · rw [toLower_of_not_capital hb] at h
    by_cases hcap : 65 ≤ c ∧ c ≤ 90
    · have hval := toNat_toLower_of_capital hcap
      have hge : 65 ≤ c.toNat := UInt8.le_iff_toNat_le.mp hcap.1
      rw [← h] at hval
      refine ⟨UInt8.lt_iff_toNat_lt.mpr (show 32 < b.toNat by omega), ?_⟩
      rintro rfl
      rw [show (58 : UInt8).toNat = 58 from rfl] at hval
      omega
    · rw [toLower_of_not_capital hcap] at h
      rwa [h]

/-! ## Fields -/

/-- There is no colon in a name. -/
theorem no_colon_of_wellFormed {f : HeaderField} (h : f.WellFormed) : 58 ∉ f.name :=
  fun hmem => (h.name_visible 58 hmem).2 rfl

/-- A field is one line. -/
theorem isLine_of_wellFormed {f : HeaderField} (h : f.WellFormed) : IsLine f.line := by
  have hname : IsLine f.name := by
    intro b hb
    have hvisible := (h.name_visible b hb).1
    refine ⟨?_, ?_, ?_⟩
    all_goals
      rintro rfl
      exact absurd hvisible (by decide)
  have hcolon : IsLine [58] := by decide
  have hline : f.line = f.name ++ ([58] ++ f.value) := rfl
  rw [hline]
  exact isLine_append hname (isLine_append hcolon h.value_line)

/-- The line of a field is not empty. -/
theorem line_ne_nil (f : HeaderField) : f.line ≠ [] := by
  simp [HeaderField.line]

/-- Another spelling of a field is a field. -/
theorem wellFormed_of_sameField {f g : HeaderField} (hf : f.WellFormed) (h : f.SameField g) :
    g.WellFormed := by
  obtain ⟨hname, hvalue⟩ := h
  refine ⟨?_, ?_, ?_⟩
  · intro hnil
    rw [hnil] at hname
    exact hf.name_ne_nil (List.map_eq_nil_iff.mp hname.symm)
  · intro b hb
    have hmem : toLower b ∈ f.name.map toLower := by
      rw [← hname]
      exact List.mem_map_of_mem hb
    obtain ⟨c, hc, hlower⟩ := List.mem_map.mp hmem
    exact visible_of_toLower hlower.symm (hf.name_visible c hc)
  · rw [hvalue]
    exact hf.value_line

/-- Each field of a message in other letters is one of the message. -/
theorem exists_sameField {fields fields' : List HeaderField} (h : Respelled fields fields')
    {g : HeaderField} (hg : g ∈ fields') : ∃ f ∈ fields, f.SameField g := by
  induction h with
  | nil => cases hg
  | @cons f g' fields fields' hsame _ ih =>
    rcases List.mem_cons.mp hg with rfl | hg
    · exact ⟨f, List.mem_cons_self, hsame⟩
    · obtain ⟨f', hf', hsame'⟩ := ih hg
      exact ⟨f', List.mem_cons_of_mem _ hf', hsame'⟩

/-- And it is as long. -/
theorem length_line_of_sameField {f g : HeaderField} (h : f.SameField g) :
    g.line.length = f.line.length := by
  have hname := congrArg List.length h.1
  rw [List.length_map, List.length_map] at hname
  rw [HeaderField.line, HeaderField.line, List.length_append, List.length_append, hname, h.2]

/-- The head is as long in another spelling. -/
theorem length_written_of_respelled {fields fields' : List HeaderField}
    (h : Respelled fields fields') (line : List UInt8) :
    (written (line :: fields'.map HeaderField.line)).length =
      (written (line :: fields.map HeaderField.line)).length := by
  have hcons : ∀ (l : List UInt8) (ls : List (List UInt8)),
      (written (l :: ls)).length = l.length + 2 + (written ls).length := by
    intro l ls
    rw [written, List.flatMap_cons, List.length_append, List.length_append]
    rfl
  rw [hcons, hcons]
  congr 1
  induction h with
  | nil => rfl
  | cons hsame _ ih =>
    rw [List.map_cons, List.map_cons, hcons, hcons, ih, length_line_of_sameField hsame]

/-- The field with its name in small letters. -/
def lower (f : HeaderField) : HeaderField := ⟨f.name.map toLower, f.value⟩

/-- A name in small letters is another spelling. -/
theorem sameField_lower (f : HeaderField) : f.SameField (lower f) := by
  refine ⟨?_, rfl⟩
  rw [lower, List.map_map]
  exact List.map_congr_left fun b _ => toLower_toLower b

/-- Each field may be spelt in the same way. -/
theorem respelled_map {spell : HeaderField → HeaderField}
    (h : ∀ f, HeaderField.SameField f (spell f))
    (fields : List HeaderField) : Respelled fields (fields.map spell) := by
  rw [Respelled, List.forall₂_map_right_iff, List.forall₂_same]
  exact fun f _ => h f

/-- Or left as it is. -/
theorem respelled_self (fields : List HeaderField) : Respelled fields fields :=
  List.forall₂_same.mpr fun _ _ => ⟨rfl, rfl⟩

/-! ## Words that end in a colon -/

/-- What is left of the first colon. -/
theorem colon_inj {a b c d : List UInt8} (ha : 58 ∉ a) (hb : 58 ∉ b)
    (h : a ++ 58 :: c = b ++ 58 :: d) : a = b ∧ c = d := by
  have hab : a = b := by
    rw [← takeWhile_ne ha c, h, takeWhile_ne hb]
  subst hab
  exact ⟨rfl, (List.cons.inj (List.append_cancel_left h)).2⟩

/-- A name and a colon at the beginning of a field are its name. -/
theorem begins_line_iff {name : List UInt8} {f : HeaderField} (hname : 58 ∉ name)
    (hf : 58 ∉ f.name) : name ++ [58] <+: f.line ↔ f.name = name := by
  constructor
  · rintro ⟨rest, hrest⟩
    rw [List.append_assoc, List.singleton_append] at hrest
    exact (colon_inj hname hf hrest).1.symm
  · rintro rfl
    exact ⟨f.value, by rw [List.append_assoc]; rfl⟩

/-- A name and a colon anywhere in a field. -/
theorem infix_line {name : List UInt8} {f : HeaderField} (hname : 58 ∉ name) (hf : 58 ∉ f.name)
    (h : name ++ [58] <:+: f.line) : name <:+ f.name ∨ name ++ [58] <:+: f.value := by
  obtain ⟨before, after, heq⟩ := h
  have hsplit : (before ++ name) ++ 58 :: after = f.name ++ 58 :: f.value := by
    rw [← HeaderField.line, ← heq]
    simp
  by_cases hbefore : 58 ∈ before
  · -- the colon of the field stands before the word
    obtain ⟨first, rest, rfl, hfirst⟩ := List.eq_append_cons_of_mem hbefore
    rw [List.append_assoc, List.append_assoc, List.cons_append] at hsplit
    refine .inr ⟨rest, after, ?_⟩
    rw [← (colon_inj hfirst hf hsplit).2]
    simp
  · have hword : 58 ∉ before ++ name := by
      rw [List.mem_append, not_or]
      exact ⟨hbefore, hname⟩
    exact .inl ⟨before, (colon_inj hword hf hsplit).1⟩

/-! ## Words within lines -/

/-- A word without the ends of lines that begins in one of several lines stands in it. -/
theorem exists_line_of_begins {word rest : List UInt8} {lines : List (List UInt8)} {i : ℕ}
    (hne : word ≠ []) (hcr : 13 ∉ word) (hlf : 10 ∉ word) (hi : i < (written lines).length)
    (h : word <+: (written lines ++ rest).drop i) : ∃ line ∈ lines, word <:+: line := by
  induction lines generalizing i with
  | nil => exact absurd hi (Nat.not_lt_zero i)
  | cons line lines ih =>
    have hwritten : written (line :: lines) ++ rest =
        line ++ (crlf ++ (written lines ++ rest)) := by
      simp [written]
    have hlength : (written (line :: lines)).length = line.length + 2 + (written lines).length := by
      rw [written, List.flatMap_cons, List.length_append, List.length_append]
      rfl
    rw [hwritten] at h
    by_cases hline : i < line.length
    · rw [List.drop_append_of_le_length hline.le] at h
      refine ⟨line, List.mem_cons_self, ?_⟩
      have hbegin : word <+: line.drop i := by
        refine begins_of_append ?_ h
        intro b hb
        cases hb
        exact hcr
      exact hbegin.isInfix.trans (List.drop_suffix i line).isInfix
    · obtain ⟨j, rfl⟩ := Nat.exists_eq_add_of_le (Nat.le_of_not_lt hline)
      rw [← List.drop_drop, List.drop_left] at h
      by_cases hj : j < 2
      · -- a word does not begin in the end of a line
        obtain ⟨b, word, rfl⟩ := List.exists_cons_of_ne_nil hne
        have hj' : j = 0 ∨ j = 1 := by omega
        rcases hj' with rfl | rfl
        · exact absurd (.inl (List.cons_prefix_cons.mp h).1.symm) (mt List.mem_cons.mpr hcr)
        · exact absurd (.inl (List.cons_prefix_cons.mp h).1.symm) (mt List.mem_cons.mpr hlf)
      · obtain ⟨k, rfl⟩ := Nat.exists_eq_add_of_le (Nat.le_of_not_lt hj)
        rw [← List.drop_drop] at h
        obtain ⟨l, hl, hword⟩ := ih (i := k) (by omega) h
        exact ⟨l, List.mem_cons_of_mem _ hl, hword⟩

end MirrorLink.Analysis
