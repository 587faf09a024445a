import MirrorLink.Analysis.HeaderNames
import MirrorLink.Analysis.HttpArrival

/-!
# Scanning responses in other letters

Where no line before the body has a spelling of `Content-Length` that is looked for, the length
is looked for in the body alone (`findContentLength_nameless`), and letters make no difference
(`responseOf_nameless`).  Where one line has, it is found (`taken_spelled`).
-/

set_option autoImplicit false

namespace MirrorLink.Analysis

open MirrorLink.Library MirrorLink.Program

/-! ## The parts of a response -/

variable (m : HttpMessage) {fields' : List HeaderField}

/-- The head is lines in any spelling. -/
theorem isLine_of_respelled (hfields : Respelled m.fields fields') :
    ∀ line ∈ fields'.map HeaderField.line, IsLine line ∧ line ≠ [] := by
  intro line hline
  obtain ⟨g, hg, rfl⟩ := List.mem_map.mp hline
  obtain ⟨f, hf, hsame⟩ := exists_sameField hfields hg
  exact ⟨isLine_of_wellFormed (wellFormed_of_sameField (m.wellFormed f hf) hsame), line_ne_nil g⟩

/-- There is no zero in the response. -/
theorem zero_not_mem_response (hfields : Respelled m.fields fields') : 0 ∉ m.bytes fields' := by
  have hlines : ∀ line ∈ m.statusLine :: fields'.map HeaderField.line, IsLine line := by
    intro line hline
    rcases List.mem_cons.mp hline with rfl | hline
    · exact isLine_statusText _ _ m.reason_line
    · exact (isLine_of_respelled m hfields line hline).1
  have hcrlf : (0 : UInt8) ∉ crlf := by decide
  simp only [HttpMessage.bytes, HttpMessage.head, List.mem_append, not_or]
  exact ⟨⟨zero_not_mem_written hlines, hcrlf⟩, m.body_no_zero⟩

/-- The head is as long in any spelling. -/
theorem length_head (hfields : Respelled m.fields fields') :
    (m.head fields').length = (m.head m.fields).length := by
  rw [HttpMessage.head, HttpMessage.head, List.length_append, List.length_append,
    length_written_of_respelled hfields]

/-- The response has a length that is an `int`. -/
theorem length_bytes_lt (hfields : Respelled m.fields fields') :
    (m.bytes fields').length < 2 ^ 31 := by
  have hlength : (m.bytes fields').length = (m.bytes m.fields).length := by
    rw [HttpMessage.bytes, HttpMessage.bytes, List.length_append, List.length_append,
      length_head m hfields]
  rw [hlength]
  exact m.length_lt

/-- The response begins with its status line in any spelling. -/
theorem bytes_eq_statusLine (fields' : List HeaderField) :
    ∃ rest, m.bytes fields' = m.statusLine ++ rest ∧
      (m.head fields').length = m.statusLine.length + (rest.length - m.body.length) ∧
      m.body.length ≤ rest.length := by
  refine ⟨crlf ++ (written (fields'.map HeaderField.line) ++ (crlf ++ m.body)), ?_, ?_, ?_⟩
  · simp [HttpMessage.bytes, HttpMessage.head, written]
  · simp only [HttpMessage.head, written, List.flatMap_cons, List.length_append]
    omega
  · simp only [List.length_append]
    omega

/-- The status of a text that has all of the status line. -/
theorem statusOf_statusLine (rest : List UInt8) :
    statusOf (m.statusLine ++ rest) = some (UInt16.ofInt m.code) := by
  have htext : m.statusLine ++ rest = ascii "HTTP/1." ++ (decimal m.version.minor ++
      (ascii " " ++ (decimal m.code ++ (m.reason ++ rest)))) := by
    simp [HttpMessage.statusLine]
  obtain ⟨more, hread⟩ := sscanf_statusText m.version m.code_ge m.code_le (m.reason ++ rest)
  rw [htext]
  unfold statusOf
  rw [hread]

/-- The code is not zero. -/
theorem code_ne_zero : UInt16.ofInt (m.code : ℤ) ≠ 0 := by
  have hge := m.code_ge
  have hle := m.code_le
  have hmod : ((m.code : ℤ) % 2 ^ 16).toNat = m.code := by omega
  intro hzero
  have hval := congrArg UInt16.toNat hzero
  unfold UInt16.ofInt at hval
  rw [hmod, UInt16.toNat_ofNat_of_lt' (show m.code < 2 ^ 16 by omega)] at hval
  rw [show (0 : UInt16).toNat = 0 from rfl] at hval
  omega

/-- The status of a beginning that has the status line. -/
theorem statusOf_take (fields' : List HeaderField) {n : ℕ} (hn : m.statusLine.length ≤ n) :
    statusOf ((m.bytes fields').take n) = some (UInt16.ofInt m.code) := by
  obtain ⟨rest, hbytes, -, -⟩ := bytes_eq_statusLine m fields'
  obtain ⟨k, rfl⟩ := Nat.exists_eq_add_of_le hn
  rw [hbytes, List.take_length_add_append]
  exact statusOf_statusLine m _

/-! ## Lines without the name -/

/-- The lines of the response have no spelling of the name that is looked for. -/
def Nameless (lines : List (List UInt8)) : Prop :=
  ∀ name ∈ contentLengthNames, ∀ line ∈ lines, ¬ name <:+: line

/-- What is common to the spellings that are looked for. -/
theorem of_mem_contentLengthNames {word : List UInt8} (h : word ∈ contentLengthNames) :
    ∃ name, word = name ++ [58] ∧ 58 ∉ name ∧ 13 ∉ word ∧ 10 ∉ word ∧ 67 ∈ name ∧
      (∃ more, word = 67 :: more) ∧ name.map toLower = ascii "content-length" := by
  have hcases : word = ascii "Content-Length:" ∨ word = ascii "CONTENT-LENGTH:" := by
    simpa [contentLengthNames] using h
  rcases hcases with rfl | rfl
  · exact ⟨ascii "Content-Length", by decide, by decide, by decide, by decide, by decide,
      ⟨ascii "ontent-Length:", by decide⟩, by decide⟩
  · exact ⟨ascii "CONTENT-LENGTH", by decide, by decide, by decide, by decide, by decide,
      ⟨ascii "ONTENT-LENGTH:", by decide⟩, by decide⟩

/-- The status line does not have the name of the length. -/
theorem not_infix_statusLine {word : List UInt8} (hword : word ∈ contentLengthNames) :
    ¬ word <:+: m.statusLine := by
  obtain ⟨name, -, -, -, -, -, ⟨more, rfl⟩, -⟩ := of_mem_contentLengthNames hword
  have hfront : (67 : UInt8) ∉ ascii "HTTP/1." ++ decimal m.version.minor ++ ascii " " ++
      decimal m.code := by
    have hminor : (67 : UInt8) ∉ decimal m.version.minor :=
      fun hmem => absurd (isDigit_of_mem_decimal hmem) (by decide)
    have hcode : (67 : UInt8) ∉ decimal m.code :=
      fun hmem => absurd (isDigit_of_mem_decimal hmem) (by decide)
    have hhttp : (67 : UInt8) ∉ ascii "HTTP/1." := by decide
    have hblank : (67 : UInt8) ∉ ascii " " := by decide
    simp only [List.mem_append, not_or]
    exact ⟨⟨⟨hhttp, hminor⟩, hblank⟩, hcode⟩
  rw [← strstr_isSome_iff, HttpMessage.statusLine, strstr_skip _ _ _ _ hfront,
    strstr_isSome_iff]
  exact (m.no_other_length _ hword).1

/-- The line of a field has a spelling of the name only at the end of its own name. -/
theorem infix_field (hfields : Respelled m.fields fields') {word : List UInt8}
    (hword : word ∈ contentLengthNames) {g : HeaderField} (hg : g ∈ fields')
    (h : word <:+: g.line) : ∃ name, word = name ++ [58] ∧ name <:+ g.name := by
  obtain ⟨f, hf, hsame⟩ := exists_sameField hfields hg
  obtain ⟨name, rfl, hcolon, -, -, -, -, -⟩ := of_mem_contentLengthNames hword
  have hwell := wellFormed_of_sameField (m.wellFormed f hf) hsame
  rcases infix_line hcolon (no_colon_of_wellFormed hwell) h with hname | hvalue
  · exact ⟨name, rfl, hname⟩
  · rw [hsame.2] at hvalue
    exact absurd hvalue ((m.no_other_length _ hword).2 f hf)

/-- In small letters no line has the name. -/
theorem nameless_lower : Nameless (m.statusLine :: (m.fields.map lower).map HeaderField.line) := by
  intro word hword line hline hstands
  rcases List.mem_cons.mp hline with rfl | hline
  · exact not_infix_statusLine m hword hstands
  · obtain ⟨g, hg, rfl⟩ := List.mem_map.mp hline
    obtain ⟨name, hname, hsuffix⟩ :=
      infix_field m (respelled_map sameField_lower m.fields) hword hg hstands
    obtain ⟨f, -, rfl⟩ := List.mem_map.mp hg
    obtain ⟨name', hname', -, -, -, hcapital, -, -⟩ := of_mem_contentLengthNames hword
    have hsame : name = name' := List.append_cancel_right (hname.symm.trans hname')
    rw [hsame] at hsuffix
    exact not_mem_map_toLower (by decide) f.name (hsuffix.subset hcapital)

/-- A response without that field has the name in no letters. -/
theorem nameless_of_no_length (hfields : Respelled m.fields fields')
    (h : ∀ f ∈ m.fields, ¬ ascii "content-length" <:+ f.name.map toLower) :
    Nameless (m.statusLine :: fields'.map HeaderField.line) := by
  intro word hword line hline hstands
  rcases List.mem_cons.mp hline with rfl | hline
  · exact not_infix_statusLine m hword hstands
  · obtain ⟨g, hg, rfl⟩ := List.mem_map.mp hline
    obtain ⟨name, hname, hsuffix⟩ := infix_field m hfields hword hg hstands
    obtain ⟨f, hf, hsame⟩ := exists_sameField hfields hg
    obtain ⟨name', hname', -, -, -, -, -, hlower⟩ := of_mem_contentLengthNames hword
    have heq : name = name' := List.append_cancel_right (hname.symm.trans hname')
    refine h f hf ?_
    rw [← hsame.1, ← hlower, ← heq]
    exact hsuffix.map toLower

/-! ## Where the name is not before the body -/

/-- Before the blank line a word of a line is not found, if no line has it. -/
theorem not_begins_head {lines : List (List UInt8)} {word rest : List UInt8}
    (hword : word ∈ contentLengthNames) (hlines : ∀ line ∈ lines, ¬ word <:+: line) {i : ℕ}
    (hi : i < (written lines).length) : ¬ word <+: (written lines ++ rest).drop i := by
  intro hbegin
  obtain ⟨-, -, -, hcr, hlf, -, ⟨more, hmore⟩, -⟩ := of_mem_contentLengthNames hword
  have hne : word ≠ [] := by simp [hmore]
  obtain ⟨line, hline, hstands⟩ := exists_line_of_begins hne hcr hlf hi hbegin
  exact hlines line hline hstands

/-- **The length is looked for in the body**, if no line has its name. -/
theorem findContentLength_nameless
    (hname : Nameless (m.statusLine :: fields'.map HeaderField.line)) (n : ℕ) :
    findContentLength ((m.bytes fields').take n) =
      findContentLength (m.body.take (n - (m.head fields').length)) := by
  have hskip : ∀ word ∈ contentLengthNames, strstr word ((m.bytes fields').take n) =
      strstr word (m.body.take (n - (m.head fields').length)) := by
    intro word hword
    rw [HttpMessage.bytes, List.take_append]
    refine strstr_append_skip _ _ _ fun i hi hbegin => ?_
    rw [← List.take_append, List.drop_take] at hbegin
    have hhead : m.head fields' =
        written ((m.statusLine :: fields'.map HeaderField.line) ++ [[]]) := by
      simp [HttpMessage.head, written]
    have hlines : ∀ line ∈ (m.statusLine :: fields'.map HeaderField.line) ++ [[]],
        ¬ word <:+: line := by
      intro line hline hstands
      rcases List.mem_append.mp hline with hline | hline
      · exact hname word hword line hline hstands
      · obtain ⟨-, -, -, -, -, -, ⟨more, hmore⟩, -⟩ := of_mem_contentLengthNames hword
        rw [List.mem_singleton.mp hline, hmore] at hstands
        exact absurd (List.infix_nil.mp hstands) (List.cons_ne_nil _ _)
    have hi' : i < (m.head fields').length := by
      rw [List.length_take] at hi
      omega
    rw [hhead] at hbegin hi'
    exact not_begins_head hword hlines hi' (hbegin.trans (List.take_prefix _ _))
  have hfirst := hskip (ascii "Content-Length:") (by simp [contentLengthNames])
  have hsecond := hskip (ascii "CONTENT-LENGTH:") (by simp [contentLengthNames])
  unfold findContentLength
  rw [hfirst, hsecond]

/-- Without a length the receiving goes on. -/
theorem stops_of_not_found {text : List UInt8} (h : findContentLength text = none) :
    stops text = false := by
  unfold stops
  cases hstatus : statusOf text with
  | none => rw [scanResponse_of_none hstatus]
  | some code =>
    rw [scanResponse_of_status hstatus, h]
    rfl

/-- Before the body the scan goes on. -/
theorem stops_nameless_head (hname : Nameless (m.statusLine :: fields'.map HeaderField.line))
    {n : ℕ} (hn : n ≤ (m.head fields').length) : stops ((m.bytes fields').take n) = false := by
  refine stops_of_not_found ?_
  rw [findContentLength_nameless m hname, Nat.sub_eq_zero_of_le hn]
  rfl

/-- Behind the head the scan depends on the body alone. -/
theorem scanResponse_nameless (hname : Nameless (m.statusLine :: fields'.map HeaderField.line))
    {n : ℕ} (hn : (m.head fields').length ≤ n) :
    scanResponse ⟨0, none⟩ ((m.bytes fields').take n) =
      (findContentLength (m.body.take (n - (m.head fields').length))).elim
        (⟨UInt16.ofInt m.code, none⟩, false) (scanBody ⟨UInt16.ofInt m.code, none⟩) := by
  obtain ⟨rest, -, hlength, -⟩ := bytes_eq_statusLine m fields'
  have hstatus := statusOf_take m fields' (n := n) (by omega)
  rw [scanResponse_of_status hstatus, findContentLength_nameless m hname]

/-- The scan takes no more than is behind the name. -/
theorem length_taken_lt {text body behind : List UInt8}
    (hfound : findContentLength text = findContentLength body)
    (htaken : taken text = some behind) : behind.length < body.length := by
  obtain ⟨-, pos, hpos, hfrom⟩ := (taken_eq_some_iff _ _).mp htaken
  have hsuffix := suffix_of_findContentLength (hfound ▸ hpos)
  have hblank := (strstr_suffix hfrom.blank).length_le
  have hle := hsuffix.length_le
  have hfour : blankLine.length = 4 := rfl
  rw [List.length_append, hfour] at hblank
  omega

/-! ## Where it is -/

/-- The value of the field, with blanks around it perhaps. -/
theorem scanContentLength_value {blanks digits rest : List UInt8}
    (hblanks : ∀ b ∈ blanks, b = 32 ∨ b = 9) (hne : digits ≠ [])
    (hdigits : ∀ b ∈ digits, isDigit b = true) (hrest : ∀ b ∈ rest.head?, isDigit b = false) :
    scanContentLength (ascii "Content-Length:" ++ (blanks ++ (digits ++ rest))) =
      some (storeInt (digitsValue digits)) := by
  have hformat : directives "Content-Length: %d\r\n".toList =
      (ascii "Content-Length:").map .char ++ [.space, .int none, .space, .space] := by
    decide
  have hspace : ∀ b ∈ blanks, isSpace b = true := by
    intro b hb
    rcases hblanks b hb with rfl | rfl <;> rfl
  unfold scanContentLength
  rw [hformat, sscanf_chars, sscanf, List.dropWhile_append_of_pos hspace,
    dropWhile_isSpace_digits _ _ hne hdigits,
    sscanf_int none _ _ _ hne hdigits (takeWhile_isDigit_append _ _ hdigits hrest)]

/-- The length in capitals as they are looked for, and everything else in small letters. -/
def capitalLength (f : HeaderField) : HeaderField :=
  if f.Called (ascii "content-length") then ⟨ascii "Content-Length", f.value⟩ else lower f

/-- The name of the length in capitals is another spelling. -/
theorem sameField_capitalLength (f : HeaderField) : f.SameField (capitalLength f) := by
  unfold capitalLength
  split_ifs with hcalled
  · refine ⟨?_, rfl⟩
    rw [hcalled]
    show (ascii "Content-Length").map toLower = ascii "content-length"
    decide
  · exact sameField_lower f

/-- So is the head with that name in capitals. -/
theorem respelled_capitalLength : Respelled m.fields (m.fields.map capitalLength) :=
  respelled_map sameField_capitalLength m.fields

/-- The value of a field that gives a length. -/
theorem value_of_givesLength {f : HeaderField} (hf : f.WellFormed) {n : ℕ}
    (h : GivesLength f.line n) : ∃ blanks digits trail, f.value = blanks ++ (digits ++ trail) ∧
      (∀ b ∈ blanks ++ trail, b = 32 ∨ b = 9) ∧ digits ≠ [] ∧ (∀ b ∈ digits, isDigit b = true) ∧
      digitsValue digits = n := by
  obtain ⟨name, blanks, digits, trail, hline, hname, hblank, hne, hdigits, hvalue⟩ := h
  have hcolon : 58 ∉ name := by
    intro hmem
    have hlower : toLower 58 ∈ name.map toLower := List.mem_map_of_mem hmem
    rw [hname] at hlower
    exact absurd hlower (by decide)
  refine ⟨blanks, digits, trail, ?_, hblank, hne, hdigits, hvalue⟩
  rw [← List.append_assoc]
  exact (colon_inj (no_colon_of_wellFormed hf) hcolon hline).2

/-- The length that is read from a line with the name in capitals. -/
theorem scanContentLength_line {f : HeaderField} (hf : f.WellFormed)
    (hcalled : f.Called (ascii "content-length")) {n : ℕ} (h : GivesLength f.line n)
    (rest : List UInt8) :
    scanContentLength ((capitalLength f).line ++ (crlf ++ rest)) = some (storeInt n) := by
  obtain ⟨blanks, digits, trail, hvalue, hblank, hne, hdigits, hn⟩ := value_of_givesLength hf h
  have hline : (capitalLength f).line =
      ascii "Content-Length:" ++ (blanks ++ (digits ++ trail)) := by
    have hword : ascii "Content-Length:" = ascii "Content-Length" ++ [58] := by decide
    rw [capitalLength, if_pos hcalled, HeaderField.line, hword, hvalue]
    simp
  have hrest : ∀ b ∈ (trail ++ (crlf ++ rest)).head?, isDigit b = false := by
    intro b hb
    rcases trail with _ | ⟨c, trail⟩
    · cases hb
      rfl
    · cases hb
      have hmem : b ∈ blanks ++ b :: trail := List.mem_append_right _ List.mem_cons_self
      rcases hblank b hmem with rfl | rfl <;> rfl
  have hread := scanContentLength_value (fun b hb => hblank b (List.mem_append_left _ hb)) hne
    hdigits hrest
  rw [hn] at hread
  rw [hline, ← hread]
  simp only [List.append_assoc]

/-- The fields in these letters, cut at the one with the length. -/
theorem map_capitalLength {f : HeaderField}
    (honly : (m.fields.filter fun f => f.Called (ascii "content-length")) = [f]) :
    f ∈ m.fields ∧ f.Called (ascii "content-length") ∧ ∃ before after : List HeaderField,
      m.fields.map lower = before.map lower ++ lower f :: after.map lower ∧
      m.fields.map capitalLength =
        before.map lower ++ capitalLength f :: after.map capitalLength := by
  obtain ⟨before, after, hsplit, hbefore, hcalled, -⟩ := List.filter_eq_cons_iff.mp honly
  have hfirst : before.map capitalLength = before.map lower := by
    refine List.map_congr_left fun g hg => ?_
    rw [capitalLength, if_neg fun h => hbefore g hg (decide_eq_true h)]
  refine ⟨by simp [hsplit], of_decide_eq_true hcalled, before, after, ?_, ?_⟩
  · rw [hsplit, List.map_append, List.map_cons]
  · rw [hsplit, List.map_append, List.map_cons, hfirst]

/-- What the scan finds where the length is spelled so. -/
structure FindsLength (text pos : List UInt8) : Prop where
  field : findContentLength text = some pos
  value : scanContentLength pos = some (storeInt m.body.length)
  blank : strstr blankLine pos = some (blankLine ++ m.body)

/-- **The length is found** where it is spelled so. -/
theorem finds_capitalLength {f : HeaderField}
    (honly : (m.fields.filter fun f => f.Called (ascii "content-length")) = [f])
    (hgives : GivesLength f.line m.body.length) :
    ∃ pos, FindsLength m (m.bytes (m.fields.map capitalLength)) pos := by
  obtain ⟨hf, hcalled, before, after, hlower, hcapital⟩ := map_capitalLength m honly
  have hwritten :
      written ((capitalLength f).line :: (after.map capitalLength).map HeaderField.line) =
        (capitalLength f).line ++
          (crlf ++ written ((after.map capitalLength).map HeaderField.line)) := by
    simp [written]
  have htext : m.bytes (m.fields.map capitalLength) =
      written (m.statusLine :: (before.map lower).map HeaderField.line) ++
        (written ((capitalLength f).line :: (after.map capitalLength).map HeaderField.line) ++
          (crlf ++ m.body)) := by
    rw [HttpMessage.bytes, HttpMessage.head, hcapital]
    simp [written]
  refine ⟨written ((capitalLength f).line :: (after.map capitalLength).map HeaderField.line) ++
    (crlf ++ m.body), ?_, ?_, ?_⟩
  · -- no line before it has the name
    have hnames : ∀ line ∈ m.statusLine :: (before.map lower).map HeaderField.line,
        ¬ ascii "Content-Length:" <:+: line := by
      intro line hline
      refine nameless_lower m _ (by simp [contentLengthNames]) line ?_
      rcases List.mem_cons.mp hline with rfl | hline
      · exact List.mem_cons_self
      · rw [hlower, List.map_append]
        exact List.mem_cons_of_mem _ (List.mem_append_left _ hline)
    have hbegin : ascii "Content-Length:" <+: (capitalLength f).line := by
      have hword : ascii "Content-Length:" = ascii "Content-Length" ++ [58] := by decide
      rw [capitalLength, if_pos hcalled, hword]
      exact ⟨f.value, by rw [List.append_assoc]; rfl⟩
    have hfound : strstr (ascii "Content-Length:") (m.bytes (m.fields.map capitalLength)) =
        some (written ((capitalLength f).line ::
          (after.map capitalLength).map HeaderField.line) ++ (crlf ++ m.body)) := by
      rw [htext]
      refine strstr_append _ _ _ ?_ fun i hi => ?_
      · rw [hwritten, List.append_assoc]
        exact hbegin.trans (List.prefix_append _ _)
      · exact not_begins_head (by simp [contentLengthNames]) hnames hi
    unfold findContentLength
    rw [hfound]
  · rw [hwritten, List.append_assoc, List.append_assoc]
    exact scanContentLength_line (m.wellFormed f hf) hcalled hgives _
  · have hlines := isLine_of_respelled m (respelled_capitalLength m)
    rw [hcapital, List.map_append, List.map_cons] at hlines
    have hline := (hlines (capitalLength f).line (by simp)).1
    have hafter : ∀ l ∈ (after.map capitalLength).map HeaderField.line, IsLine l ∧ l ≠ [] :=
      fun l hl => hlines l (List.mem_append_right _ (List.mem_cons_of_mem _ hl))
    rw [← ascii_blankLine, strstr_blank_written _ _ _ hline hafter, ascii_blankLine, blankLine,
      List.append_assoc]

/-- The scan stops there, with the body if it is not empty. -/
theorem scan_of_findsLength {text pos : List UInt8} {code : UInt16}
    (hstatus : statusOf text = some code) (h : FindsLength m text pos) :
    stops text = true ∧ taken text = if m.body = [] then none else some m.body := by
  have hlt : m.body.length < 2 ^ 32 := by
    have hall := length_bytes_lt m (respelled_self m.fields)
    rw [HttpMessage.bytes, List.length_append] at hall
    omega
  have hvalue := toNat_storeInt hlt
  by_cases hbody : m.body = []
  · have hscan : scanResponse ⟨0, none⟩ text = (⟨code, none⟩, true) := by
      rw [scanResponse_of_status hstatus, h.field]
      show scanBody _ pos = _
      have hzero : ¬ 0 < storeInt (m.body.length : ℤ) := by
        rw [UInt32.lt_iff_toNat_lt, hvalue, hbody]
        exact Nat.lt_irrefl 0
      unfold scanBody
      rw [h.value]
      simp only [if_neg hzero]
    rw [scanResponse_eq, Prod.mk.injEq] at hscan
    rw [if_pos hbody]
    exact ⟨hscan.2, congrArg HttpRsp.body hscan.1⟩
  · have htaken : taken text = some m.body := by
      refine (taken_eq_some_iff _ _).mpr
        ⟨⟨code, hstatus⟩, pos, h.field, ⟨_, h.value, ?_, ?_⟩, h.blank⟩
      · rw [UInt32.lt_iff_toNat_lt, hvalue]
        exact List.length_pos_iff.mpr hbody
      · rw [hvalue]
    rw [if_neg hbody]
    refine ⟨?_, htaken⟩
    by_contra hstops
    rw [taken_of_not_stops (Bool.eq_false_iff.mpr hstops)] at htaken
    cases htaken

end MirrorLink.Analysis
