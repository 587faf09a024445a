import MirrorLink.Analysis.HeaderNames
import MirrorLink.Analysis.SearchResponses

/-!
# Answers to a search in other letters

The names of headers are looked for as they are spelled in the source.  The letters of an answer
make no difference only if it is no update in any: it is for another target, or has no blank
behind the colon (`ssdpCaseFree_iff`).
-/

set_option autoImplicit false

namespace MirrorLink.Analysis

open MirrorLink.Library MirrorLink.Program

/-- The answer leaves the same context in whatever letters its names are. -/
def SsdpCaseFree (m : SsdpMessage) : Prop :=
  ∀ fields', Respelled m.fields fields' → ∀ context,
    handleSsdpResp context (m.text fields') = handleSsdpResp context (m.text m.fields)

/-- A message has its lines, and two empty ones behind them. -/
theorem hasLines_written {lines : List (List UInt8)} (h : ∀ line ∈ lines, 10 ∉ line) :
    HasLines (lines ++ [[], []]) (written lines ++ crlf) := by
  induction lines with
  | nil => exact .crlf (by simp) (.last (by simp))
  | cons line lines ih =>
    have hwritten : written (line :: lines) ++ crlf =
        line ++ 13 :: 10 :: (written lines ++ crlf) := by
      simp [written, crlf]
    rw [hwritten]
    exact .crlf (h line List.mem_cons_self) (ih fun l hl => h l (List.mem_cons_of_mem _ hl))

/-- A word occurs where it is a part. -/
theorem occurs_iff (word line : List UInt8) : Occurs word line ↔ word <:+: line :=
  strstr_isSome_iff word line

/-- The end of a line adds no occurrence of a word without it. -/
theorem occurs_ending {word line ending : List UInt8} (hword : 13 ∉ word)
    (hending : ending = [] ∨ ending = [13]) : Occurs word (line ++ ending) ↔ Occurs word line := by
  rw [occurs_iff, occurs_iff]
  rcases hending with rfl | rfl
  · rw [List.append_nil]
  · rw [List.infix_concat_iff]
    refine or_iff_right_of_imp ?_
    rintro ⟨before, hbefore⟩
    rcases List.eq_nil_or_concat word with rfl | ⟨start, last, rfl⟩
    · exact List.nil_infix
    · have hlast := congrArg List.getLast? hbefore
      rw [List.concat_eq_append, ← List.append_assoc, List.getLast?_concat, List.getLast?_concat,
        Option.some_inj] at hlast
      exact absurd (by simp [hlast]) hword

/-- The target of a field in other letters is that of the answer. -/
theorem value_of_called {fields fields' : List HeaderField} {name : List UInt8} {f g : HeaderField}
    (hfields : Respelled fields fields') (honly : (fields.filter fun f => f.Called name) = [f])
    (hg : g ∈ fields') (hcalled : g.Called name) : g.value = f.value := by
  obtain ⟨f', hf', hsame⟩ := exists_sameField hfields hg
  have hmem : f' ∈ fields.filter fun f => f.Called name :=
    List.mem_filter.mpr ⟨hf', decide_eq_true (hsame.1.symm.trans hcalled)⟩
  rw [honly, List.mem_singleton] at hmem
  rw [hsame.2, hmem]

/-- The fields are fields in any spelling. -/
theorem wellFormed_of_respelled {fields fields' : List HeaderField}
    (hfields : Respelled fields fields') (h : ∀ f ∈ fields, f.WellFormed) :
    ∀ g ∈ fields', HeaderField.WellFormed g := by
  intro g hg
  obtain ⟨f, hf, hsame⟩ := exists_sameField hfields hg
  exact wellFormed_of_sameField (h f hf) hsame

/-- The line of the target can be read, if its name is spelled `ST`. -/
def ReadsTarget (m : SsdpMessage) : Prop := Occurs (ascii "ST: ") (ascii "ST:" ++ m.target.value)

instance (m : SsdpMessage) : Decidable (ReadsTarget m) := inferInstanceAs (Decidable (Occurs _ _))

/-- A field that is called `ST` has the line of the target. -/
theorem line_of_called (m : SsdpMessage) {fields' : List HeaderField}
    (hfields : Respelled m.fields fields') {f : HeaderField} (hf : f ∈ fields')
    (hname : f.name = ascii "ST") : f.line = ascii "ST:" ++ m.target.value := by
  have hcalled : f.Called (ascii "st") := by
    rw [HeaderField.Called, hname]
    decide
  have hst : ascii "ST:" = ascii "ST" ++ [58] := by decide
  rw [HeaderField.line, hname, value_of_called hfields m.only_target hf hcalled, hst]
  simp

/-- A line that begins with `ST:` is that of the target, with its name spelled so. -/
theorem eq_of_begins_st (m : SsdpMessage) {fields' : List HeaderField}
    (hfields : Respelled m.fields fields') {line : List UInt8}
    (hline : line ∈ (m.start :: fields'.map HeaderField.line) ++ [[], []])
    (hbegin : ascii "ST:" <+: line) :
    line = ascii "ST:" ++ m.target.value ∧ ∃ f ∈ fields', f.name = ascii "ST" := by
  have hst : ascii "ST:" = ascii "ST" ++ [58] := by decide
  rw [List.cons_append, List.mem_cons, List.mem_append, List.mem_map] at hline
  rcases hline with rfl | ⟨f, hf, rfl⟩ | hline
  · rcases List.prefix_or_prefix_of_prefix hbegin m.start_http with h | h
    · exact absurd h (by decide)
    · exact absurd h (by decide)
  · have hcolon := no_colon_of_wellFormed (wellFormed_of_respelled hfields m.wellFormed f hf)
    rw [hst] at hbegin
    have hname := (begins_line_iff (by decide) hcolon).mp hbegin
    exact ⟨line_of_called m hfields hf hname, f, hf, hname⟩
  · have hempty : line = [] := by simpa using hline
    rw [hempty] at hbegin
    exact absurd (List.prefix_nil.mp hbegin) (by decide)

/-- What a line of the answer says about its target. -/
theorem saysValue_target (m : SsdpMessage) {fields' : List HeaderField}
    (hfields : Respelled m.fields fields') {line : List UInt8}
    (hline : line ∈ (m.start :: fields'.map HeaderField.line) ++ [[], []]) :
    SaysValue (ascii "ST:") m.targetWord (fun line => Occurs (ascii "ST: ") line)
      (Occurs (ascii "ST: ")) line := by
  obtain ⟨before, after, hvalue, hblanks, hne, hspace⟩ := m.target_word
  have hblank : ∀ b ∈ before ++ after, isSpace b = true := by
    intro b hb
    rcases hblanks b hb with rfl | rfl <;> rfl
  intro hbegin ending hending
  refine ⟨?_, fun _ => ?_⟩
  · rw [decide_eq_true_iff]
    exact occurs_ending (by decide) hending
  · rw [(eq_of_begins_st m hfields hline hbegin).1, hvalue, List.append_assoc, headerWord,
      if_pos (List.prefix_append _ _), List.drop_left, List.append_assoc, List.append_assoc]
    refine firstWord_word (fun b hb => hblank b (List.mem_append_left _ hb)) hne hspace ?_
    intro b hb
    rcases List.mem_append.mp (List.mem_of_mem_head? hb) with hb | hb
    · exact hblank b (List.mem_append_right _ hb)
    · rcases hending with rfl | rfl
      · cases hb
      · rw [List.mem_singleton.mp hb]
        rfl

/-- There is no line end within the lines. -/
theorem no_lf_of_respelled (m : SsdpMessage) {fields' : List HeaderField}
    (hfields : Respelled m.fields fields') :
    ∀ line ∈ m.start :: fields'.map HeaderField.line, 10 ∉ line := by
  intro line hline hmem
  rcases List.mem_cons.mp hline with rfl | hline
  · exact (m.start_line 10 hmem).2.1 rfl
  · obtain ⟨f, hf, rfl⟩ := List.mem_map.mp hline
    have hwell := wellFormed_of_respelled hfields m.wellFormed f hf
    exact (isLine_of_wellFormed hwell 10 hmem).2.1 rfl

/-- **The target that is read** is that of the answer, if its name is spelled so. -/
theorem lastWord_stWords_text (m : SsdpMessage) {fields' : List HeaderField}
    (hfields : Respelled m.fields fields') :
    lastWord [] (stWords (m.text fields')) =
      if (∃ f ∈ fields', f.name = ascii "ST") ∧ ReadsTarget m then m.targetWord else [] := by
  obtain ⟨-, -, -, -, hne, -⟩ := m.target_word
  have hread := lastWord_headerWords (by decide) hne
    (hasLines_written (no_lf_of_respelled m hfields)) (fun line => saysValue_target m hfields) []
  refine hread.trans ?_
  congr 1
  rw [eq_iff_iff]
  constructor
  · rintro ⟨line, hline, hbegin, hoccurs⟩
    obtain ⟨heq, hname⟩ := eq_of_begins_st m hfields hline hbegin
    rw [heq] at hoccurs
    exact ⟨hname, hoccurs⟩
  · rintro ⟨⟨f, hf, hname⟩, hreads⟩
    refine ⟨f.line, ?_, ?_, ?_⟩
    · exact List.mem_append_left _ (List.mem_cons_of_mem _ (List.mem_map_of_mem hf))
    · rw [line_of_called m hfields hf hname]
      exact List.prefix_append _ _
    · rw [line_of_called m hfields hf hname]
      exact hreads

/-- The answer is for a service, and its target can be read if its name is spelled `ST`. -/
def IsUpdate (m : SsdpMessage) : Prop := (∃ s : Service, m.targetWord = s.urn) ∧ ReadsTarget m

/-- A service has a name. -/
theorem urn_ne_nil (s : Service) : s.urn ≠ [] := by
  cases s <;> decide

/-- An answer that is none, or whose target is not spelled `ST`, changes nothing. -/
theorem handleSsdpResp_text_of_not (m : SsdpMessage) {fields' : List HeaderField}
    (hfields : Respelled m.fields fields')
    (hnot : ¬ IsUpdate m ∨ ∀ f ∈ fields', f.name ≠ ascii "ST") (context : Context) :
    handleSsdpResp context (m.text fields') = context := by
  refine handleSsdpResp_of_other context fun s => ?_
  rw [lastWord_stWords_text m hfields]
  split_ifs with hread
  · obtain ⟨⟨f, hf, hname⟩, hreads⟩ := hread
    rcases hnot with hnot | hnot
    · exact fun htarget => hnot ⟨⟨s, htarget⟩, hreads⟩
    · exact absurd hname (hnot f hf)
  · exact (urn_ne_nil s).symm

/-- The target's name in capitals. -/
def capitalTarget (f : HeaderField) : HeaderField :=
  if f.Called (ascii "st") then ⟨ascii "ST", f.value⟩ else f

/-- The name of the target in capitals is another spelling. -/
theorem sameField_capitalTarget (f : HeaderField) : f.SameField (capitalTarget f) := by
  unfold capitalTarget
  split_ifs with hcalled
  · refine ⟨?_, rfl⟩
    rw [hcalled]
    show (ascii "ST").map toLower = ascii "st"
    decide
  · exact ⟨rfl, rfl⟩

/-- **Letters make no difference** to an answer exactly if it is no update in any. -/
theorem ssdpCaseFree_iff (m : SsdpMessage) : SsdpCaseFree m ↔ ¬ IsUpdate m := by
  constructor
  · rintro hfree ⟨⟨s, htarget⟩, hreads⟩
    have hmem : m.target ∈ m.fields.filter fun f => f.Called (ascii "st") := by
      rw [m.only_target]
      exact List.mem_cons_self
    obtain ⟨hfield, hcalled⟩ := List.mem_filter.mp hmem
    have hcapital : ∃ f ∈ m.fields.map capitalTarget, f.name = ascii "ST" := by
      refine ⟨capitalTarget m.target, List.mem_map_of_mem hfield, ?_⟩
      rw [capitalTarget, if_pos (of_decide_eq_true hcalled)]
    have hsmall : ∀ f ∈ m.fields.map lower, f.name ≠ ascii "ST" := by
      intro f hf hname
      obtain ⟨g, -, rfl⟩ := List.mem_map.mp hf
      have hs : (83 : UInt8) ∈ (lower g).name := by
        rw [hname]
        decide
      exact not_mem_map_toLower (by decide) g.name hs
    have hcapitals : Respelled m.fields (m.fields.map capitalTarget) :=
      respelled_map sameField_capitalTarget m.fields
    have hsmalls : Respelled m.fields (m.fields.map lower) := respelled_map sameField_lower m.fields
    -- in capitals the answer writes its address, in small letters it changes nothing
    have hwrites : ∀ context, s.location context =
        lastWord [] (locationWords (m.text (m.fields.map capitalTarget))) := by
      intro context
      have hsame := (hfree _ hcapitals context).trans (hfree _ hsmalls context).symm
      rw [handleSsdpResp_text_of_not m hsmalls (.inr hsmall)] at hsame
      have hlocation := location_handleSsdpResp context (m.text (m.fields.map capitalTarget)) s
      have hword := lastWord_stWords_text m hcapitals
      rw [if_pos ⟨hcapital, hreads⟩, htarget] at hword
      rwa [if_pos hword, hsame] at hlocation
    have hempty := hwrites Context.zero
    have hother := hwrites ⟨0, [], [1], [1], [1], false⟩
    rw [← hempty] at hother
    cases s with
    | applicationServer => cases hother
    | clientProfile => cases hother
    | serverDevice => cases hother
  · intro hnot fields' hfields context
    rw [handleSsdpResp_text_of_not m hfields (.inl hnot),
      handleSsdpResp_text_of_not m (respelled_self m.fields) (.inl hnot)]

end MirrorLink.Analysis
