import Mathlib.Algebra.GroupWithZero.Nat
import Mathlib.Algebra.Order.BigOperators.Group.List
import Mathlib.Algebra.Order.Group.Nat
import MirrorLink.Library.Xml

/-!
# What a reader does with a text

How the reader goes through what a program writes: text (`run_text`), a tag (`run_tag`), and
line ends.  And what any document can come to: a reader has never more text than it has read
characters, and loses two of them at least for whatever is not text (`weight_run_of_special`);
and the text of an element is as long as that of its children together (`fair_of_readXml`).
-/

set_option autoImplicit false

namespace MirrorLink.Library

/-! ## Runs -/

namespace XmlReader

/-- Nothing is read. -/
@[simp] theorem run_nil (r : XmlReader) : r.run [] = some r := rfl

/-- The first character is read first. -/
@[simp] theorem run_cons (r : XmlReader) (c : Char) (text : List Char) :
    r.run (c :: text) = (r.step c).bind fun r => r.run text := rfl

/-- A text may be read in two parts. -/
theorem run_append (r : XmlReader) (text rest : List Char) :
    r.run (text ++ rest) = (r.run text).bind fun r => r.run rest := List.foldlM_append

/-- What the steps keep is kept by a run. -/
theorem run_invariant {inv : XmlReader → Prop}
    (hstep : ∀ r c r', inv r → r.step c = some r' → inv r') {r r' : XmlReader} {text : List Char}
    (h0 : inv r) (h : r.run text = some r') : inv r' := by
  induction text generalizing r with
  | nil =>
    cases h
    exact h0
  | cons c text ih =>
    obtain ⟨s, hs, hrest⟩ := Option.bind_eq_some_iff.mp h
    exact ih (hstep r c s h0 hs) hrest

end XmlReader

/-- Behind the declaration the content is read from the start. -/
theorem readXml_of_declaration {text content : List Char}
    (h : afterDeclaration (normalizeLineEnds text) = some content) :
    readXml text = (XmlReader.start.run content).bind XmlReader.finish := by
  rw [readXml, h]
  rfl

/-! ## Text -/

/-- The character stands for itself in the text of an element. -/
def isTextChar (c : Char) : Bool := isXmlChar c && c != '<' && c != '&'

/-- Plain characters are those of a document, but for the two that begin markup. -/
theorem isTextChar_iff {c : Char} :
    isTextChar c = true ↔ isXmlChar c = true ∧ c ≠ '<' ∧ c ≠ '&' := by
  simp [isTextChar, and_assoc]

/-- `]]>`, which must not stand in a text. -/
def cdataEnd : List Char := [']', ']', '>']

/-- Brackets in front of another character are no part of a `]]>`, unless this is the `>`. -/
theorem cdataEnd_infix_cons {brackets : ℕ} {c : Char} {text : List Char} (hc : c ≠ ']')
    (hend : ¬ (c = '>' ∧ 2 ≤ brackets)) :
    cdataEnd <:+: List.replicate brackets ']' ++ c :: text ↔ cdataEnd <:+: text := by
  induction brackets with
  | zero =>
    rw [List.replicate_zero, List.nil_append, List.infix_cons_iff, or_iff_right]
    rintro ⟨rest, hrest⟩
    exact hc (List.cons.inj hrest).1.symm
  | succ brackets ih =>
    rw [List.replicate_succ, List.cons_append, List.infix_cons_iff,
      ih fun h => hend ⟨h.1, by omega⟩, or_iff_right]
    rintro ⟨rest, hrest⟩
    have htail := (List.cons.inj hrest).2
    rcases brackets with _ | _ | brackets
    · exact hc (List.cons.inj htail).1.symm
    · exact hend ⟨(List.cons.inj (List.cons.inj htail).2).1.symm, le_rfl⟩
    · exact absurd (List.cons.inj (List.cons.inj htail).2).1 (by decide)

/-- A plain character is added to the innermost element, unless it ends `]]>`. -/
theorem step_text (brackets : ℕ) (f : XmlFrame) (fs : List XmlFrame) (root : Option XmlElement)
    {c : Char} (hc : isTextChar c = true) :
    XmlReader.step ⟨.text brackets, f :: fs, root⟩ c =
      if c = '>' ∧ 2 ≤ brackets then none
      else some ⟨.text (if c = ']' then brackets + 1 else 0),
        { f with text := f.text ++ [c] } :: fs, root⟩ := by
  obtain ⟨hlegal, hopen, hand⟩ := isTextChar_iff.mp hc
  rw [XmlReader.step, if_pos hlegal]
  show XmlReader.stepText _ brackets c = _
  rw [XmlReader.stepText, if_neg hopen, if_neg hand]
  rfl

/-- **Text.**  It is refused if `]]>` stands in it, and otherwise added. -/
theorem run_text (brackets : ℕ) (f : XmlFrame) (fs : List XmlFrame) (root : Option XmlElement)
    {text : List Char} (htext : ∀ c ∈ text, isTextChar c = true) :
    (cdataEnd <:+: List.replicate brackets ']' ++ text →
      XmlReader.run ⟨.text brackets, f :: fs, root⟩ text = none) ∧
    (¬ cdataEnd <:+: List.replicate brackets ']' ++ text →
      ∃ brackets', XmlReader.run ⟨.text brackets, f :: fs, root⟩ text =
        some ⟨.text brackets', { f with text := f.text ++ text } :: fs, root⟩) := by
  induction text generalizing brackets f with
  | nil =>
    constructor
    · intro hinfix
      rw [List.append_nil] at hinfix
      have hmem := hinfix.subset (show '>' ∈ cdataEnd by decide)
      exact absurd (List.eq_of_mem_replicate hmem) (by decide)
    · intro _
      refine ⟨brackets, ?_⟩
      rw [List.append_nil]
      rfl
  | cons c text ih =>
    have hrest := fun d hd => htext d (List.mem_cons_of_mem _ hd)
    rw [XmlReader.run_cons, step_text brackets f fs root (htext c List.mem_cons_self)]
    by_cases hend : c = '>' ∧ 2 ≤ brackets
    · rw [if_pos hend]
      refine ⟨fun _ => rfl, fun hno => absurd ?_ hno⟩
      obtain ⟨rfl, hle⟩ := hend
      refine ⟨List.replicate (brackets - 2) ']', text, ?_⟩
      have hsplit : List.replicate brackets ']' =
          List.replicate (brackets - 2) ']' ++ List.replicate 2 ']' := by
        rw [← List.replicate_add, Nat.sub_add_cancel hle]
      rw [hsplit]
      simp [cdataEnd, List.replicate]
    · rw [if_neg hend]
      by_cases hc : c = ']'
      · have hmove : List.replicate brackets ']' ++ c :: text =
            List.replicate (brackets + 1) ']' ++ text := by
          rw [hc, List.replicate_succ', List.append_assoc]
          rfl
        rw [if_pos hc, hmove]
        obtain ⟨hin, hout⟩ := ih (brackets + 1) { f with text := f.text ++ [c] } hrest
        refine ⟨hin, fun hno => ?_⟩
        obtain ⟨brackets', hrun⟩ := hout hno
        refine ⟨brackets', ?_⟩
        rw [Option.bind_some, hrun, List.append_assoc]
        rfl
      · rw [if_neg hc, cdataEnd_infix_cons hc hend]
        obtain ⟨hin, hout⟩ := ih 0 { f with text := f.text ++ [c] } hrest
        refine ⟨hin, fun hno => ?_⟩
        obtain ⟨brackets', hrun⟩ := hout hno
        refine ⟨brackets', ?_⟩
        rw [Option.bind_some, hrun, List.append_assoc]
        rfl

/-! ## Tags -/

/-- Reading what stands in a tag: the quote that is open at its end, if it is possible at all. -/
def scanTag : Option Char → List Char → Option (Option Char)
  | quote, [] => some quote
  | quote, c :: raw =>
    if isXmlChar c && c != '<' then
      match quote with
      | some q => scanTag (if c = q then none else some q) raw
      | none =>
        if c = '>' then none
        else scanTag (if c = quotationMark ∨ c = apostrophe then some c else none) raw
    else none

/-- What stands in a tag is collected up to where it is read to. -/
theorem run_scanTag {frames : List XmlFrame} {root : Option XmlElement} {raw seen : List Char}
    {quote quote' : Option Char} (hscan : scanTag quote raw = some quote')
    (hbegin : seen = [] → ∀ c ∈ raw.head?, c ≠ '!' ∧ c ≠ '?') :
    XmlReader.run ⟨.tag quote seen, frames, root⟩ raw =
      some ⟨.tag quote' (seen ++ raw), frames, root⟩ := by
  induction raw generalizing quote seen with
  | nil =>
    cases hscan
    rw [List.append_nil]
    rfl
  | cons c raw ih =>
    rw [scanTag.eq_def] at hscan
    dsimp only at hscan
    by_cases hc : (isXmlChar c && c != '<') = true
    · rw [if_pos hc] at hscan
      simp only [Bool.and_eq_true, bne_iff_ne] at hc
      have hnext : ∀ q, scanTag q raw = some quote' →
          XmlReader.run ⟨.tag q (seen ++ [c]), frames, root⟩ raw =
            some ⟨.tag quote' (seen ++ c :: raw), frames, root⟩ := by
        intro q hq
        rw [ih hq fun h => absurd h (by simp), List.append_assoc]
        rfl
      rw [XmlReader.run_cons, XmlReader.step, if_pos hc.1]
      show (XmlReader.stepTag _ quote seen c).bind _ = _
      rw [XmlReader.stepTag.eq_def, if_neg hc.2]
      cases quote with
      | some q => exact hnext _ hscan
      | none =>
        dsimp only at hscan ⊢
        by_cases hclose : c = '>'
        · rw [if_pos hclose] at hscan
          cases hscan
        · have hmarkup : ¬ (seen = [] ∧ (c = '!' ∨ c = '?')) := by
            rintro ⟨hseen, hmark⟩
            obtain ⟨hne, hne'⟩ := hbegin hseen c rfl
            exact hmark.elim hne hne'
          rw [if_neg hclose] at hscan ⊢
          rw [if_neg hmarkup]
          exact hnext _ hscan
    · rw [if_neg hc] at hscan
      cases hscan

/-- A tag as it is written. -/
def tagText (raw : List Char) : List Char := '<' :: raw ++ ['>']

/-- What stands in the tag makes it this one, and is read to its end. -/
def IsTag (raw : List Char) (tag : XmlTag) : Prop :=
  scanTag none raw = some none ∧ raw.head? ≠ some '!' ∧ raw.head? ≠ some '?' ∧
    tagOf raw = some tag

instance (raw : List Char) (tag : XmlTag) : Decidable (IsTag raw tag) :=
  inferInstanceAs (Decidable (_ ∧ _))

/-- **A tag.** -/
theorem run_tag (brackets : ℕ) (frames : List XmlFrame) (root : Option XmlElement)
    {raw : List Char} {tag : XmlTag} (h : IsTag raw tag) :
    XmlReader.run ⟨.text brackets, frames, root⟩ (tagText raw) =
      XmlReader.apply ⟨.text 0, frames, root⟩ tag := by
  obtain ⟨hscan, hbang, hquestion, htag⟩ := h
  have hopen : XmlReader.step ⟨.text brackets, frames, root⟩ '<' =
      some ⟨.tag none [], frames, root⟩ := rfl
  have hbegin : ([] : List Char) = [] → ∀ c ∈ raw.head?, c ≠ '!' ∧ c ≠ '?' := by
    intro _ c hc
    constructor
    · rintro rfl
      exact hbang hc
    · rintro rfl
      exact hquestion hc
  have hclose : XmlReader.step ⟨.tag none raw, frames, root⟩ '>' =
      XmlReader.apply ⟨.text 0, frames, root⟩ tag := by
    show (tagOf raw >>= fun tag => XmlReader.apply ⟨.text 0, frames, root⟩ tag) = _
    rw [htag]
    rfl
  rw [tagText, List.cons_append, XmlReader.run_cons, hopen, Option.bind_some,
    XmlReader.run_append, run_scanTag hscan hbegin, Option.bind_some, List.nil_append,
    XmlReader.run_cons, hclose]
  exact Option.bind_fun_some _

/-- The tag that opens an element in another one. -/
theorem run_opens (brackets : ℕ) (f : XmlFrame) (fs : List XmlFrame) (root : Option XmlElement)
    {raw name : List Char} {attributes : List (List Char × List Char)}
    (h : IsTag raw (.opens name attributes false)) :
    XmlReader.run ⟨.text brackets, f :: fs, root⟩ (tagText raw) =
      some ⟨.text 0, ⟨name, attributes, [], []⟩ :: f :: fs, root⟩ := by
  rw [run_tag brackets _ root h]
  rfl

/-- The tag that closes an element in another one. -/
theorem run_closes (brackets : ℕ) (f g : XmlFrame) (fs : List XmlFrame)
    (root : Option XmlElement) {raw : List Char} (h : IsTag raw (.closes f.name)) :
    XmlReader.run ⟨.text brackets, f :: g :: fs, root⟩ (tagText raw) =
      some ⟨.text 0, { g with
        text := g.text ++ f.text
        children := g.children ++ [.mk f.name f.attributes f.text f.children] } :: fs, root⟩ := by
  rw [run_tag brackets _ root h]
  show (if f.name = f.name then _ else none) = _
  rw [if_pos rfl]
  rfl

/-- The tags of an element of this name. -/
def IsElementName (name : List Char) : Prop :=
  IsTag name (.opens name [] false) ∧ IsTag ('/' :: name) (.closes name)

instance (name : List Char) : Decidable (IsElementName name) :=
  inferInstanceAs (Decidable (_ ∧ _))

/-- An element with a text in it, as it is written. -/
def elementText (name text : List Char) : List Char :=
  tagText name ++ text ++ tagText ('/' :: name)

/-- An element with a text in it is one more child. -/
theorem run_element (brackets : ℕ) (f : XmlFrame) (fs : List XmlFrame) (root : Option XmlElement)
    {name text : List Char} (hname : IsElementName name)
    (htext : ∀ c ∈ text, isTextChar c = true) (hend : ¬ cdataEnd <:+: text) :
    XmlReader.run ⟨.text brackets, f :: fs, root⟩ (elementText name text) =
      some ⟨.text 0, { f with
        text := f.text ++ text
        children := f.children ++ [.mk name [] text []] } :: fs, root⟩ := by
  obtain ⟨brackets', hrun⟩ := (run_text 0 ⟨name, [], [], []⟩ (f :: fs) root htext).2
    (by simpa using hend)
  rw [elementText, XmlReader.run_append, XmlReader.run_append,
    run_opens brackets f fs root hname.1, Option.bind_some, hrun, Option.bind_some,
    run_closes brackets' _ f fs root hname.2]
  rfl

/-- A comment or the like is read up to the first `>`. -/
theorem run_markup {frames : List XmlFrame} {root : Option XmlElement} {seen text : List Char}
    (hlegal : ∀ c ∈ text, isXmlChar c = true) (hend : '>' ∉ text) :
    XmlReader.run ⟨.markup seen, frames, root⟩ text =
      some ⟨.markup (seen ++ text), frames, root⟩ := by
  induction text generalizing seen with
  | nil =>
    rw [List.append_nil]
    rfl
  | cons c text ih =>
    rw [List.mem_cons, not_or] at hend
    have hc : c ≠ '>' := fun heq => hend.1 heq.symm
    have hstep : XmlReader.step ⟨.markup seen, frames, root⟩ c =
        some ⟨.markup (seen ++ [c]), frames, root⟩ := by
      rw [XmlReader.step, if_pos (hlegal c List.mem_cons_self)]
      exact if_neg hc
    rw [XmlReader.run_cons, hstep, Option.bind_some,
      ih (fun d hd => hlegal d (List.mem_cons_of_mem _ hd)) hend.2, List.append_assoc]
    rfl

/-- Markup that is not well-formed is refused. -/
theorem run_malformed (brackets : ℕ) (frames : List XmlFrame) (root : Option XmlElement)
    {mark : Char} {raw : List Char} (hmark : mark = '!' ∨ mark = '?')
    (hlegal : ∀ c ∈ raw, isXmlChar c = true) (hend : '>' ∉ raw)
    (h : markupOf (mark :: raw) = .malformed) :
    XmlReader.run ⟨.text brackets, frames, root⟩ (tagText (mark :: raw)) = none := by
  have hopen : XmlReader.step ⟨.text brackets, frames, root⟩ '<' =
      some ⟨.tag none [], frames, root⟩ := rfl
  have hbegin : XmlReader.step ⟨.tag none [], frames, root⟩ mark =
      some ⟨.markup [mark], frames, root⟩ := by
    rcases hmark with rfl | rfl <;> rfl
  have hclose : XmlReader.step ⟨.markup (mark :: raw), frames, root⟩ '>' = none := by
    show XmlReader.stepMarkup _ (mark :: raw) '>' = none
    rw [XmlReader.stepMarkup, if_pos rfl, h]
  rw [tagText, List.cons_append, XmlReader.run_cons, hopen, Option.bind_some, List.cons_append,
    XmlReader.run_cons, hbegin, Option.bind_some, XmlReader.run_append, run_markup hlegal hend,
    Option.bind_some, List.singleton_append, XmlReader.run_cons, hclose]
  rfl

/-! ## Line ends -/

/-- A text without carriage returns is left as it is. -/
theorem normalizeFrom_of_not_mem {text : List Char} (htext : carriageReturn ∉ text) :
    normalizeFrom false text = text := by
  induction text with
  | nil => rfl
  | cons c text ih =>
    rw [List.mem_cons, not_or] at htext
    rw [normalizeFrom, if_neg fun h => htext.1 h.symm, if_neg (by simp), ih htext.2]

/-- Where a text without carriage returns begins, and not with a line feed, nothing is joined. -/
theorem normalizeFrom_append (text : List Char) {rest : List Char}
    (hrest : carriageReturn ∉ rest) (hline : rest.head? ≠ some lineFeed) (afterReturn : Bool) :
    normalizeFrom afterReturn (text ++ rest) = normalizeFrom afterReturn text ++ rest := by
  induction text generalizing afterReturn with
  | nil =>
    rw [normalizeFrom, List.nil_append]
    cases rest with
    | nil => rw [normalizeFrom]
    | cons c rest =>
      have hc : c ≠ lineFeed := fun h => hline (congrArg some h)
      rw [List.mem_cons, not_or] at hrest
      rw [normalizeFrom, if_neg fun h => hrest.1 h.symm, if_neg fun h => hc h.2,
        normalizeFrom_of_not_mem hrest.2]
  | cons c text ih =>
    rw [List.cons_append, normalizeFrom, normalizeFrom, ih, ih]
    split_ifs <;> rfl

/-- A text that has no carriage returns goes through as it is. -/
theorem normalizeLineEnds_append {text : List Char} (htext : carriageReturn ∉ text)
    (rest : List Char) : normalizeLineEnds (text ++ rest) = text ++ normalizeLineEnds rest := by
  induction text with
  | nil => rfl
  | cons c text ih =>
    rw [List.mem_cons, not_or] at htext
    show normalizeFrom false (c :: (text ++ rest)) = c :: (text ++ normalizeFrom false rest)
    rw [normalizeFrom, if_neg fun h => htext.1 h.symm, if_neg (by simp)]
    exact congrArg (c :: ·) (ih htext.2)

/-- Line ends only become shorter. -/
theorem length_normalizeFrom_le (afterReturn : Bool) (text : List Char) :
    (normalizeFrom afterReturn text).length ≤ text.length := by
  induction text generalizing afterReturn with
  | nil => cases afterReturn <;> exact le_rfl
  | cons c text ih =>
    rw [normalizeFrom]
    split_ifs
    · exact Nat.succ_le_succ (ih true)
    · exact Nat.le_succ_of_le (ih false)
    · exact Nat.succ_le_succ (ih false)

/-- No carriage return is left. -/
theorem not_mem_normalizeFrom (afterReturn : Bool) (text : List Char) :
    carriageReturn ∉ normalizeFrom afterReturn text := by
  induction text generalizing afterReturn with
  | nil => cases afterReturn <;> exact List.not_mem_nil
  | cons c text ih =>
    rw [normalizeFrom]
    split_ifs with hc
    · rw [List.mem_cons, not_or]
      exact ⟨by decide, ih true⟩
    · exact ih false
    · rw [List.mem_cons, not_or]
      exact ⟨fun h => hc h.symm, ih false⟩

/-! ## How much is read -/

/-- The characters the reader has read since the tag or the like it is in has begun. -/
def XmlMode.pending : XmlMode → ℕ
  | .text _ => 0
  | .reference seen => seen.length
  | .tag _ seen => seen.length
  | .markup seen => seen.length

def XmlMode.IsText : XmlMode → Prop
  | .text _ => True
  | _ => False

namespace XmlReader

/-- All text that has been read. -/
def total (r : XmlReader) : ℕ :=
  (r.frames.map fun f => f.text.length).sum + (r.root.map fun e => e.text.length).getD 0

def weight (r : XmlReader) : ℕ := r.total + r.mode.pending

/-- Text makes the elements longer by no more than itself. -/
theorem total_emit {r r' : XmlReader} {text : List Char} (h : r.emit text = some r') :
    r'.mode = r.mode ∧ r'.total ≤ r.total + text.length := by
  obtain ⟨mode, frames, root⟩ := r
  cases frames with
  | nil =>
    obtain ⟨-, hr⟩ := Option.ite_none_right_eq_some.mp h
    cases hr
    exact ⟨rfl, Nat.le_add_right _ _⟩
  | cons f fs =>
    cases h
    refine ⟨rfl, ?_⟩
    simp only [total, List.map_cons, List.sum_cons, List.length_append]
    omega

/-- An element that is closed is counted in the one around it. -/
theorem total_add {r r' : XmlReader} {e : XmlElement} (h : r.add e = some r') :
    r'.mode = r.mode ∧ r'.total = r.total + e.text.length := by
  obtain ⟨mode, frames, root⟩ := r
  cases frames with
  | nil =>
    cases root with
    | none =>
      cases h
      exact ⟨rfl, by simp [total]⟩
    | some root => cases h
  | cons f fs =>
    cases h
    refine ⟨rfl, ?_⟩
    simp only [total, List.map_cons, List.sum_cons, List.length_append]
    omega

/-- A tag adds no text. -/
theorem total_apply {r r' : XmlReader} {tag : XmlTag} (h : r.apply tag = some r') :
    r'.mode = r.mode ∧ r'.total = r.total := by
  cases tag with
  | opens name attributes empty =>
    rw [apply] at h
    split_ifs at h with hempty hroot
    · exact total_add h
    · cases h
      exact ⟨rfl, by simp [total]⟩
  | closes name =>
    obtain ⟨mode, frames, root⟩ := r
    cases frames with
    | nil => cases h
    | cons f fs =>
      obtain ⟨-, hadd⟩ := Option.ite_none_right_eq_some.mp h
      obtain ⟨hmode, htotal⟩ := total_add hadd
      refine ⟨hmode, ?_⟩
      rw [htotal]
      simp only [total, List.map_cons, List.sum_cons, XmlElement.text]
      omega

/-- Text stays text, unless something else begins, for which no text is read. -/
theorem weight_stepText {r r' : XmlReader} {brackets : ℕ} {c : Char}
    (hmode : r.mode = .text brackets) (h : r.stepText brackets c = some r') :
    if c = '<' ∨ c = '&' then ¬ r'.mode.IsText ∧ r'.weight = r.weight
    else r'.mode.IsText ∧ r'.weight ≤ r.weight + 1 := by
  have hweight : r.weight = r.total := by
    rw [weight, hmode]
    rfl
  rw [stepText] at h
  by_cases hopen : c = '<'
  · rw [if_pos hopen] at h
    cases h
    rw [if_pos (.inl hopen)]
    exact ⟨id, hweight.symm⟩
  · rw [if_neg hopen] at h
    by_cases hand : c = '&'
    · rw [if_pos hand] at h
      obtain ⟨-, hr⟩ := Option.ite_none_left_eq_some.mp h
      cases hr
      rw [if_pos (.inr hand)]
      exact ⟨id, hweight.symm⟩
    · rw [if_neg hand] at h
      obtain ⟨-, hemit⟩ := Option.ite_none_left_eq_some.mp h
      obtain ⟨hmode', htotal⟩ := total_emit hemit
      rw [if_neg (not_or.mpr ⟨hopen, hand⟩)]
      constructor
      · rw [hmode']
        trivial
      · rw [weight, hmode', hweight]
        exact htotal

/-- Where `seen` is pending, a character is pending with it, or what has been pending becomes
one character of text at most. -/
theorem weight_stepReference {r r' : XmlReader} {seen : List Char} {c : Char}
    (hmode : r.mode = .reference seen) (h : r.stepReference seen c = some r') :
    r'.weight ≤ r.weight + 1 ∧ (r'.mode.IsText → r'.weight ≤ r.weight) := by
  have hweight : r.weight = r.total + seen.length := by
    rw [weight, hmode]
    rfl
  rw [stepReference] at h
  by_cases hend : c = ';'
  · rw [if_pos hend] at h
    obtain ⟨d, hd, hemit⟩ := Option.bind_eq_some_iff.mp h
    obtain ⟨hmode', htotal⟩ := total_emit hemit
    have hseen : 1 ≤ seen.length := by
      cases seen with
      | nil => cases hd
      | cons a seen => exact Nat.succ_pos _
    have hle : r'.weight ≤ r.weight := by
      rw [weight, hmode', hweight]
      exact Nat.le_trans htotal (Nat.add_le_add_left hseen _)
    exact ⟨Nat.le_succ_of_le hle, fun _ => hle⟩
  · rw [if_neg hend] at h
    obtain ⟨-, hr⟩ := Option.ite_none_right_eq_some.mp h
    cases hr
    refine ⟨?_, False.elim⟩
    rw [hweight]
    show r.total + (seen ++ [c]).length ≤ _
    rw [List.length_append, List.length_singleton, Nat.add_assoc]

/-- A character of a tag weighs one, and nothing any more when the tag ends. -/
theorem weight_stepTag {r r' : XmlReader} {quote : Option Char} {seen : List Char} {c : Char}
    (hmode : r.mode = .tag quote seen) (h : r.stepTag quote seen c = some r') :
    r'.weight ≤ r.weight + 1 ∧ (r'.mode.IsText → r'.weight ≤ r.weight) := by
  have hweight : r.weight = r.total + seen.length := by
    rw [weight, hmode]
    rfl
  -- one character more is pending
  have hpending : ∀ mode, mode.pending ≤ seen.length + 1 → ¬ mode.IsText →
      ({ r with mode := mode } : XmlReader).weight ≤ r.weight + 1 ∧
        (({ r with mode := mode } : XmlReader).mode.IsText →
          ({ r with mode := mode } : XmlReader).weight ≤ r.weight) := by
    intro mode hlength htext
    refine ⟨?_, fun hno => absurd hno htext⟩
    rw [hweight, Nat.add_assoc]
    exact Nat.add_le_add_left hlength _
  have hlength : (seen ++ [c]).length = seen.length + 1 := by
    rw [List.length_append, List.length_singleton]
  rw [stepTag.eq_def] at h
  obtain ⟨-, h⟩ := Option.ite_none_left_eq_some.mp h
  cases quote with
  | some q =>
    cases h
    exact hpending _ hlength.le id
  | none =>
    dsimp only at h
    by_cases hend : c = '>'
    · rw [if_pos hend] at h
      obtain ⟨tag, -, happly⟩ := Option.bind_eq_some_iff.mp h
      obtain ⟨hmode', htotal⟩ := total_apply happly
      have hle : r'.weight ≤ r.weight := by
        rw [weight, hmode', htotal, hweight]
        exact Nat.le_add_right _ _
      exact ⟨Nat.le_succ_of_le hle, fun _ => hle⟩
    · rw [if_neg hend] at h
      by_cases hmark : seen = [] ∧ (c = '!' ∨ c = '?')
      · rw [if_pos hmark] at h
        cases h
        exact hpending (.markup [c]) (Nat.le_add_left _ _) id
      · rw [if_neg hmark] at h
        cases h
        exact hpending _ hlength.le id

/-- Character data are part of their section. -/
theorem length_of_cdata {seen text : List Char} (h : markupOf seen = .cdata text) :
    text.length ≤ seen.length := by
  dsimp only [markupOf] at h
  split_ifs at h
  cases h
  rw [List.length_dropLast, List.length_dropLast, List.length_drop]
  omega

/-- A character of other markup weighs one, and no more than its text when it ends. -/
theorem weight_stepMarkup {r r' : XmlReader} {seen : List Char} {c : Char}
    (hmode : r.mode = .markup seen) (h : r.stepMarkup seen c = some r') :
    r'.weight ≤ r.weight + 1 ∧ (r'.mode.IsText → r'.weight ≤ r.weight) := by
  have hweight : r.weight = r.total + seen.length := by
    rw [weight, hmode]
    rfl
  have hpending : ({ r with mode := .markup (seen ++ [c]) } : XmlReader).weight ≤ r.weight + 1 := by
    rw [hweight]
    show r.total + (seen ++ [c]).length ≤ _
    rw [List.length_append, List.length_singleton, Nat.add_assoc]
  rw [stepMarkup] at h
  by_cases hend : c = '>'
  · rw [if_pos hend] at h
    cases hmarkup : markupOf seen with
    | unfinished =>
      rw [hmarkup] at h
      cases h
      exact ⟨hpending, False.elim⟩
    | malformed =>
      rw [hmarkup] at h
      cases h
    | silent =>
      rw [hmarkup] at h
      cases h
      have hle : ({ r with mode := .text 0 } : XmlReader).weight ≤ r.weight := by
        rw [hweight]
        exact Nat.le_add_right _ _
      exact ⟨Nat.le_succ_of_le hle, fun _ => hle⟩
    | cdata text =>
      rw [hmarkup] at h
      obtain ⟨-, hemit⟩ := Option.ite_none_left_eq_some.mp h
      obtain ⟨hmode', htotal⟩ := total_emit hemit
      have hle : r'.weight ≤ r.weight := by
        rw [weight, hmode', hweight]
        exact Nat.le_trans htotal (Nat.add_le_add_left (length_of_cdata hmarkup) _)
      exact ⟨Nat.le_succ_of_le hle, fun _ => hle⟩
  · rw [if_neg hend] at h
    cases h
    exact ⟨hpending, False.elim⟩

/-- Plain text weighs what it is; markup begins without weight. -/
theorem weight_step_of_text {r r' : XmlReader} {c : Char} (htext : r.mode.IsText)
    (h : r.step c = some r') :
    if c = '<' ∨ c = '&' then ¬ r'.mode.IsText ∧ r'.weight = r.weight
    else r'.mode.IsText ∧ r'.weight ≤ r.weight + 1 := by
  obtain ⟨-, h⟩ := Option.ite_none_right_eq_some.mp h
  cases hmode : r.mode with
  | text brackets =>
    rw [hmode] at h
    exact weight_stepText hmode h
  | _ =>
    rw [hmode] at htext
    exact htext.elim

/-- Within markup a character weighs at most one. -/
theorem weight_step_of_not_text {r r' : XmlReader} {c : Char} (htext : ¬ r.mode.IsText)
    (h : r.step c = some r') :
    r'.weight ≤ r.weight + 1 ∧ (r'.mode.IsText → r'.weight ≤ r.weight) := by
  obtain ⟨-, h⟩ := Option.ite_none_right_eq_some.mp h
  cases hmode : r.mode with
  | text brackets =>
    rw [hmode] at htext
    exact absurd trivial htext
  | reference seen =>
    rw [hmode] at h
    exact weight_stepReference hmode h
  | tag quote seen =>
    rw [hmode] at h
    exact weight_stepTag hmode h
  | markup seen =>
    rw [hmode] at h
    exact weight_stepMarkup hmode h

/-- **A character weighs at most one.** -/
theorem weight_step {r r' : XmlReader} {c : Char} (h : r.step c = some r') :
    r'.weight ≤ r.weight + 1 := by
  by_cases htext : r.mode.IsText
  · have hstep := weight_step_of_text htext h
    split_ifs at hstep
    · exact Nat.le_succ_of_le hstep.2.le
    · exact hstep.2
  · exact (weight_step_of_not_text htext h).1

/-- A text weighs at most its length. -/
theorem weight_run {r r' : XmlReader} {text : List Char} (h : r.run text = some r') :
    r'.weight ≤ r.weight + text.length := by
  induction text generalizing r with
  | nil =>
    cases h
    exact le_rfl
  | cons c text ih =>
    obtain ⟨s, hs, hrest⟩ := Option.bind_eq_some_iff.mp h
    have hstep := weight_step hs
    have hrun := ih hrest
    rw [List.length_cons]
    omega

/-- To come back to text costs a character. -/
theorem weight_run_of_not_text {r r' : XmlReader} {text : List Char} (h : r.run text = some r')
    (hbegin : ¬ r.mode.IsText) (hend : r'.mode.IsText) :
    r'.weight + 1 ≤ r.weight + text.length := by
  induction text generalizing r with
  | nil =>
    cases h
    exact absurd hend hbegin
  | cons c text ih =>
    obtain ⟨s, hs, hrest⟩ := Option.bind_eq_some_iff.mp h
    obtain ⟨hle, hback⟩ := weight_step_of_not_text hbegin hs
    rw [List.length_cons]
    by_cases htext : s.mode.IsText
    · have hstep := hback htext
      have hrun := weight_run hrest
      omega
    · have hrun := ih hrest htext
      omega

/-- **What is not text costs two characters**, one where it begins and one where it ends. -/
theorem weight_run_of_special {r r' : XmlReader} {text : List Char} (h : r.run text = some r')
    (hbegin : r.mode.IsText) (hend : r'.mode.IsText) (hspecial : '<' ∈ text ∨ '&' ∈ text) :
    r'.weight + 2 ≤ r.weight + text.length := by
  induction text generalizing r with
  | nil => exact absurd hspecial (by simp)
  | cons c text ih =>
    obtain ⟨s, hs, hrest⟩ := Option.bind_eq_some_iff.mp h
    have hstep := weight_step_of_text hbegin hs
    rw [List.length_cons]
    by_cases hc : c = '<' ∨ c = '&'
    · rw [if_pos hc] at hstep
      have hrun := weight_run_of_not_text hrest hstep.1 hend
      omega
    · rw [if_neg hc] at hstep
      have hlater : '<' ∈ text ∨ '&' ∈ text := by
        rcases hspecial with hmem | hmem
        · exact .inl ((List.mem_cons.mp hmem).resolve_left fun heq => hc (.inl heq.symm))
        · exact .inr ((List.mem_cons.mp hmem).resolve_left fun heq => hc (.inr heq.symm))
      have hrun := ih hrest hstep.1 hlater
      omega

end XmlReader

namespace XmlReader

/-- What is read has only characters that a document may have. -/
theorem legal_of_run {r r' : XmlReader} {text : List Char} (h : r.run text = some r') :
    ∀ c ∈ text, isXmlChar c = true := by
  induction text generalizing r with
  | nil => simp
  | cons c text ih =>
    obtain ⟨s, hs, hrest⟩ := Option.bind_eq_some_iff.mp h
    obtain ⟨hc, -⟩ := Option.ite_none_right_eq_some.mp hs
    simpa [hc] using ih hrest

/-- Without markup the reader stays in the text. -/
theorem isText_run {r r' : XmlReader} {text : List Char} (h : r.run text = some r')
    (hbegin : r.mode.IsText) (hplain : ∀ c ∈ text, ¬ (c = '<' ∨ c = '&')) : r'.mode.IsText := by
  induction text generalizing r with
  | nil =>
    cases h
    exact hbegin
  | cons c text ih =>
    obtain ⟨s, hs, hrest⟩ := Option.bind_eq_some_iff.mp h
    have hstep := weight_step_of_text hbegin hs
    rw [if_neg (hplain c List.mem_cons_self)] at hstep
    exact ih hrest hstep.1 fun d hd => hplain d (List.mem_cons_of_mem _ hd)

/-- A tag brings no text. -/
theorem weight_run_tag {r r' : XmlReader} {raw : List Char} {tag : XmlTag}
    (hbegin : r.mode.IsText) (htag : IsTag raw tag) (h : r.run (tagText raw) = some r') :
    r'.mode.IsText ∧ r'.weight = r.weight := by
  obtain ⟨mode, frames, root⟩ := r
  cases mode with
  | text brackets =>
    rw [run_tag brackets frames root htag] at h
    obtain ⟨hmode, htotal⟩ := total_apply h
    constructor
    · rw [hmode]
      trivial
    · rw [weight, hmode, htotal]
      rfl
  | _ => exact hbegin.elim

/-- An element with a text in it brings the text. -/
theorem weight_run_element {r r' : XmlReader} {name text : List Char} (hbegin : r.mode.IsText)
    (hname : IsElementName name) (htext : ∀ c ∈ text, isTextChar c = true)
    (h : r.run (elementText name text) = some r') :
    r'.mode.IsText ∧ r'.weight ≤ r.weight + text.length := by
  rw [elementText, run_append, run_append] at h
  obtain ⟨inside, hopen, hclose⟩ := Option.bind_eq_some_iff.mp h
  obtain ⟨opened, hopen, hread⟩ := Option.bind_eq_some_iff.mp hopen
  obtain ⟨hopened, hweight⟩ := weight_run_tag hbegin hname.1 hopen
  have hplain : ∀ c ∈ text, ¬ (c = '<' ∨ c = '&') := by
    intro c hc
    obtain ⟨-, hlt, hand⟩ := isTextChar_iff.mp (htext c hc)
    exact not_or.mpr ⟨hlt, hand⟩
  have hinside := isText_run hread hopened hplain
  have hle := weight_run hread
  obtain ⟨hclosed, hlast⟩ := weight_run_tag hinside hname.2 hclose
  exact ⟨hclosed, by omega⟩

end XmlReader

/-! ## Texts of elements -/

/-- The children's texts, all in all. -/
def textLengths (children : List XmlElement) : ℕ :=
  (children.map fun e => e.text.length).sum

/-- One more child adds the length of its text. -/
theorem textLengths_append (children : List XmlElement) (e : XmlElement) :
    textLengths (children ++ [e]) = textLengths children + e.text.length := by
  simp [textLengths]

/-- The text of each element is at least as long as those of its children together. -/
inductive Fair : XmlElement → Prop where
  | mk {name : List Char} {attributes : List (List Char × List Char)} {text : List Char}
    {children : List XmlElement} (hle : textLengths children ≤ text.length)
    (hchildren : ∀ e ∈ children, Fair e) : Fair (.mk name attributes text children)

/-- The children of an element have no more text than it has. -/
theorem Fair.le {e : XmlElement} (h : Fair e) : textLengths e.children ≤ e.text.length := by
  cases h with
  | mk hle hchildren => exact hle

/-- The children of an element are counted in the same way. -/
theorem Fair.children {e : XmlElement} (h : Fair e) : ∀ child ∈ e.children, Fair child := by
  cases h with
  | mk hle hchildren => exact hchildren

/-- A child's text is no longer than that of the element. -/
theorem Fair.child_le {e child : XmlElement} (h : Fair e) (hchild : child ∈ e.children) :
    child.text.length ≤ e.text.length := by
  have hmem : child.text.length ∈ e.children.map fun e => e.text.length :=
    List.mem_map_of_mem hchild
  exact Nat.le_trans (List.le_sum_of_mem hmem) h.le

/-- The same of a reader. -/
structure FairReader (r : XmlReader) : Prop where
  frames : ∀ f ∈ r.frames, Fair (.mk f.name f.attributes f.text f.children)
  root : ∀ e ∈ r.root, Fair e

namespace XmlReader

/-- Text that is added is added to every element around it. -/
theorem fair_emit {r r' : XmlReader} {text : List Char} (hr : FairReader r)
    (h : r.emit text = some r') : FairReader r' := by
  obtain ⟨mode, frames, root⟩ := r
  cases frames with
  | nil =>
    obtain ⟨-, heq⟩ := Option.ite_none_right_eq_some.mp h
    cases heq
    exact hr
  | cons f fs =>
    cases h
    refine ⟨?_, hr.root⟩
    intro g hg
    rcases List.mem_cons.mp hg with rfl | hg
    · have hf := hr.frames f List.mem_cons_self
      refine .mk (Nat.le_trans hf.le ?_) hf.children
      show f.text.length ≤ (f.text ++ text).length
      rw [List.length_append]
      exact Nat.le_add_right _ _
    · exact hr.frames g (List.mem_cons_of_mem _ hg)

/-- An element that is closed is fair within the one around it. -/
theorem fair_add {r r' : XmlReader} {e : XmlElement} (hr : FairReader r) (he : Fair e)
    (h : r.add e = some r') : FairReader r' := by
  obtain ⟨mode, frames, root⟩ := r
  cases frames with
  | nil =>
    cases root with
    | none =>
      cases h
      refine ⟨hr.frames, ?_⟩
      rintro _ ⟨⟩
      exact he
    | some root => cases h
  | cons f fs =>
    cases h
    refine ⟨?_, hr.root⟩
    intro g hg
    rcases List.mem_cons.mp hg with rfl | hg
    · have hf := hr.frames f List.mem_cons_self
      refine .mk ?_ ?_
      · rw [textLengths_append, List.length_append]
        exact Nat.add_le_add_right hf.le _
      · intro child hchild
        rcases List.mem_append.mp hchild with hchild | hchild
        · exact hf.children child hchild
        · rw [List.mem_singleton.mp hchild]
          exact he
    · exact hr.frames g (List.mem_cons_of_mem _ hg)

/-- A tag leaves the elements fair. -/
theorem fair_apply {r r' : XmlReader} {tag : XmlTag} (hr : FairReader r)
    (h : r.apply tag = some r') : FairReader r' := by
  have hempty : ∀ name attributes, Fair (.mk name attributes [] []) := fun _ _ =>
    .mk le_rfl fun e he => absurd he List.not_mem_nil
  cases tag with
  | opens name attributes empty =>
    rw [apply] at h
    split_ifs at h with hslash
    · exact fair_add hr (hempty name attributes) h
    · cases h
      refine ⟨?_, hr.root⟩
      intro g hg
      rcases List.mem_cons.mp hg with rfl | hg
      · exact hempty name attributes
      · exact hr.frames g hg
  | closes name =>
    obtain ⟨mode, frames, root⟩ := r
    cases frames with
    | nil => cases h
    | cons f fs =>
      obtain ⟨-, hadd⟩ := Option.ite_none_right_eq_some.mp h
      have hrest : FairReader ⟨mode, fs, root⟩ :=
        ⟨fun g hg => hr.frames g (List.mem_cons_of_mem _ hg), hr.root⟩
      exact fair_add hrest (hr.frames f List.mem_cons_self) hadd

/-- A character leaves the elements fair. -/
theorem fair_step (r : XmlReader) (c : Char) (r' : XmlReader) (hr : FairReader r)
    (h : r.step c = some r') : FairReader r' := by
  have hmode : ∀ mode, FairReader { r with mode := mode } := fun mode => ⟨hr.frames, hr.root⟩
  obtain ⟨-, h⟩ := Option.ite_none_right_eq_some.mp h
  cases hcase : r.mode with
  | text brackets =>
    rw [hcase] at h
    dsimp only [stepText] at h
    split_ifs at h
    · cases h
      exact hmode _
    · cases h
      exact hmode _
    · exact fair_emit (hmode _) h
    · exact fair_emit (hmode _) h
  | reference seen =>
    rw [hcase] at h
    dsimp only [stepReference] at h
    split_ifs at h
    · obtain ⟨d, -, hemit⟩ := Option.bind_eq_some_iff.mp h
      exact fair_emit (hmode _) hemit
    · cases h
      exact hmode _
  | tag quote seen =>
    rw [hcase] at h
    dsimp only [stepTag] at h
    obtain ⟨-, h⟩ := Option.ite_none_left_eq_some.mp h
    cases quote with
    | some q =>
      cases h
      exact hmode _
    | none =>
      dsimp only at h
      by_cases hend : c = '>'
      · rw [if_pos hend] at h
        obtain ⟨tag, -, happly⟩ := Option.bind_eq_some_iff.mp h
        exact fair_apply (hmode _) happly
      · rw [if_neg hend] at h
        split at h
        · cases h
          exact hmode _
        · cases h
          exact hmode _
  | markup seen =>
    rw [hcase] at h
    dsimp only [stepMarkup] at h
    by_cases hend : c = '>'
    · rw [if_pos hend] at h
      split at h
      · cases h
        exact hmode _
      · cases h
      · cases h
        exact hmode _
      · obtain ⟨-, hemit⟩ := Option.ite_none_left_eq_some.mp h
        exact fair_emit (hmode _) hemit
    · rw [if_neg hend] at h
      cases h
      exact hmode _

/-- At the start there is no element. -/
theorem fair_start : FairReader start := ⟨fun _ hf => absurd hf List.not_mem_nil, nofun⟩

/-- A document that is over has read the text of its root. -/
theorem weight_of_finish {r : XmlReader} {e : XmlElement} (h : r.finish = some e) :
    r.mode.IsText ∧ r.weight = e.text.length := by
  obtain ⟨mode, frames, root⟩ := r
  unfold finish at h
  split at h
  next brackets hmode hframes =>
    dsimp only at hmode hframes h
    subst hmode hframes h
    exact ⟨trivial, by simp [weight, total, XmlMode.pending]⟩
  next => cases h

end XmlReader

/-- **The elements that are read are fair.** -/
theorem fair_of_readXml {text : List Char} {e : XmlElement} (h : readXml text = some e) :
    Fair e := by
  obtain ⟨content, -, hread⟩ := Option.bind_eq_some_iff.mp h
  obtain ⟨r, hrun, he⟩ := Option.bind_eq_some_iff.mp hread
  have hr := XmlReader.run_invariant XmlReader.fair_step XmlReader.fair_start hrun
  unfold XmlReader.finish at he
  split at he
  next => exact hr.root e he
  next => cases he

/-! ## What is in the way of text -/

/-- A tag or a reference is not left by another `<`. -/
theorem step_open_of_pending {r : XmlReader}
    (hmode : (∃ seen, r.mode = .reference seen) ∨ ∃ quote seen, r.mode = .tag quote seen) :
    r.step '<' = none := by
  rcases hmode with ⟨seen, hmode⟩ | ⟨quote, seen, hmode⟩
  · rw [XmlReader.step, hmode]
    rfl
  · rw [XmlReader.step, hmode]
    show XmlReader.stepTag r quote seen '<' = none
    rw [XmlReader.stepTag.eq_def, if_pos rfl]

/-- No `>` is behind a character that could end a comment or the like. -/
def quietFrom : Char → List Char → Bool
  | _, [] => true
  | before, c :: text =>
    (c != '>' || (before != '-' && before != ']' && before != '?')) && quietFrom c text

/-- A text is quiet if both parts are. -/
theorem quietFrom_append (before : Char) (text rest : List Char) :
    quietFrom before (text ++ rest) =
      (quietFrom before text && quietFrom (text.getLastD before) rest) := by
  induction text generalizing before with
  | nil => rfl
  | cons c text ih =>
    simp only [List.cons_append, quietFrom, ih, List.getLastD_cons, Bool.and_assoc]

/-- Without `>` no section can end. -/
theorem quietFrom_of_not_mem {before : Char} {text : List Char} (h : '>' ∉ text) :
    quietFrom before text = true := by
  induction text generalizing before with
  | nil => rfl
  | cons c text ih =>
    rw [List.mem_cons, not_or] at h
    have hc : c ≠ '>' := fun heq => h.1 heq.symm
    rw [quietFrom, ih h.2]
    simp [hc]

/-- Markup that is not a tag ends with one of three characters only. -/
theorem markupOf_unfinished {seen : List Char} {last : Char}
    (hlast : last ≠ '-' ∧ last ≠ ']' ∧ last ≠ '?') :
    markupOf (seen ++ [last]) = .unfinished := by
  have hends : ∀ front c, c ≠ last → ¬ front ++ [c] <:+ seen ++ [last] := by
    rintro front c hne ⟨rest, heq⟩
    have hgetLast := congrArg List.getLast? heq
    rw [← List.append_assoc, List.getLast?_concat, List.getLast?_concat] at hgetLast
    exact hne (Option.some.inj hgetLast)
  dsimp only [markupOf]
  rw [if_neg fun h => hends ['-'] '-' hlast.1.symm h.2.1,
    if_neg fun h => hends [']'] ']' hlast.2.1.symm h.2.1,
    if_neg fun h => hends [] '?' hlast.2.2.symm h.2.1]

/-- Nothing quiet ends a comment or the like. -/
theorem run_markup_quiet {r r' : XmlReader} {seen text : List Char} {last : Char}
    (hmode : r.mode = .markup (seen ++ [last])) (hquiet : quietFrom last text = true)
    (h : r.run text = some r') : r'.mode = .markup (seen ++ last :: text) := by
  induction text generalizing r seen last with
  | nil =>
    cases h
    exact hmode
  | cons c text ih =>
    obtain ⟨s, hs, hrest⟩ := Option.bind_eq_some_iff.mp h
    rw [quietFrom, Bool.and_eq_true] at hquiet
    have hstep : s.mode = .markup ((seen ++ [last]) ++ [c]) := by
      obtain ⟨-, hs⟩ := Option.ite_none_right_eq_some.mp hs
      rw [hmode] at hs
      dsimp only [XmlReader.stepMarkup] at hs
      by_cases hend : c = '>'
      · have hlast : last ≠ '-' ∧ last ≠ ']' ∧ last ≠ '?' := by
          simpa [hend, and_assoc] using hquiet.1
        rw [if_pos hend, markupOf_unfinished hlast] at hs
        cases hs
        rfl
      · rw [if_neg hend] at hs
        cases hs
        rfl
    have hrun := ih hstep hquiet.2 hrest
    rw [hrun, List.append_assoc]
    rfl

/-- A text that begins with a tag and is quiet can only be read to its end from text. -/
theorem isText_of_finish {r r' : XmlReader} {e : XmlElement} {text : List Char}
    (hquiet : quietFrom '<' text = true) (h : r.run ('<' :: text) = some r')
    (he : r'.finish = some e) : r.mode.IsText := by
  cases hmode : r.mode with
  | text brackets => trivial
  | reference seen =>
    rw [XmlReader.run_cons, step_open_of_pending (.inl ⟨seen, hmode⟩)] at h
    cases h
  | tag quote seen =>
    rw [XmlReader.run_cons, step_open_of_pending (.inr ⟨quote, seen, hmode⟩)] at h
    cases h
  | markup seen =>
    have hstep : r.step '<' = some { r with mode := .markup (seen ++ ['<']) } := by
      rw [XmlReader.step, hmode]
      rfl
    rw [XmlReader.run_cons, hstep] at h
    have hend := run_markup_quiet rfl hquiet h
    have htext := (XmlReader.weight_of_finish he).1
    rw [hend] at htext
    exact htext.elim

/-- **A slot** for text in a document.  What fills it is plain text, if the document has no less
text than the slot and what is behind it can bring. -/
theorem plain_of_finish {f : XmlFrame} {fs : List XmlFrame} {root : Option XmlElement}
    {text back : List Char} {r : XmlReader} {e : XmlElement} {k : ℕ}
    (hquiet : quietFrom '<' back = true)
    (hback : ∀ s s' : XmlReader, s.mode.IsText → s.run ('<' :: back) = some s' →
      s'.weight ≤ s.weight + k)
    (hrun : XmlReader.run ⟨.text 0, f :: fs, root⟩ (text ++ '<' :: back) = some r)
    (hfinish : r.finish = some e)
    (hlong : XmlReader.weight ⟨.text 0, f :: fs, root⟩ + text.length + k < e.text.length + 2) :
    (∀ c ∈ text, isTextChar c = true) ∧ ¬ cdataEnd <:+: text := by
  rw [XmlReader.run_append] at hrun
  obtain ⟨s, hs, hrest⟩ := Option.bind_eq_some_iff.mp hrun
  have htext : s.mode.IsText := isText_of_finish hquiet hrest hfinish
  have hweight := hback s r htext hrest
  rw [(XmlReader.weight_of_finish hfinish).2] at hweight
  have hplain : ∀ c ∈ text, isTextChar c = true := by
    intro c hc
    by_contra hspecial
    have hmarkup : '<' ∈ text ∨ '&' ∈ text := by
      by_contra hnone
      rw [not_or] at hnone
      refine hspecial (isTextChar_iff.mpr ⟨XmlReader.legal_of_run hs c hc, ?_, ?_⟩)
      · rintro rfl
        exact hnone.1 hc
      · rintro rfl
        exact hnone.2 hc
    have hlost := XmlReader.weight_run_of_special hs trivial htext hmarkup
    omega
  refine ⟨hplain, fun hinfix => ?_⟩
  have hnone := (run_text 0 f fs root hplain).1 (by simpa using hinfix)
  rw [hnone] at hs
  cases hs

end MirrorLink.Library
