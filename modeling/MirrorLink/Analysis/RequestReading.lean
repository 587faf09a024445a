import MirrorLink.Analysis.HttpResult
import MirrorLink.Analysis.RequestText

/-!
# Reading a request

What a server reads of a text of lines and a body is the request line, the other lines, and the
announced part of the body (`parseRequest_written`).  The text that the code writes is read as
the request it was made of, if the length of the body is an `int` (`parseRequest_rawText`,
`readAs_self`).
-/

set_option autoImplicit false

namespace MirrorLink.Analysis

open MirrorLink.Library MirrorLink.Program

/-! ## Lines -/

/-- Text without a line end is the beginning of the first line. -/
theorem crlfLines_append {line : List UInt8} (hline : IsLine line) (rest : List UInt8) :
    crlfLines (line ++ rest) = (crlfLines rest).modifyHead (line ++ ·) := by
  induction line with
  | nil =>
    show crlfLines rest = (crlfLines rest).modifyHead id
    rw [List.modifyHead_id]
    rfl
  | cons b line ih =>
    have hb : b ≠ 13 := (hline b List.mem_cons_self).2.2
    rw [List.cons_append, crlfLines, ih fun c hc => hline c (List.mem_cons_of_mem _ hc),
      List.modifyHead_modifyHead]
    · rfl
    · rintro _ rfl
      exact absurd rfl hb

/-- The lines of a text in which each but the last has its end. -/
theorem crlfLines_join {line : List UInt8} {lines : List (List UInt8)} (hline : IsLine line)
    (hlines : ∀ l ∈ lines, IsLine l) :
    crlfLines (line ++ lines.flatMap (crlf ++ ·)) = line :: lines := by
  induction lines generalizing line with
  | nil =>
    rw [crlfLines_append hline]
    show [line ++ []] = [line]
    rw [List.append_nil]
  | cons next lines ih =>
    obtain ⟨hnext, hlines'⟩ := List.forall_mem_cons.mp hlines
    rw [crlfLines_append hline, List.flatMap_cons, List.append_assoc]
    show ([] :: crlfLines (next ++ lines.flatMap (crlf ++ ·))).modifyHead (line ++ ·) = _
    rw [ih hnext hlines', List.modifyHead_cons, List.append_nil]

/-- Lines that are written have a line end behind each. -/
theorem written_join (line : List UInt8) (lines : List (List UInt8)) :
    written (line :: lines) = line ++ lines.flatMap (crlf ++ ·) ++ crlf := by
  induction lines generalizing line with
  | nil => simp [written]
  | cons next lines ih =>
    rw [written_cons, ih, List.flatMap_cons]
    simp only [List.append_assoc]

/-! ## Fields -/

/-- A field is named by what stands in front of its colon. -/
theorem isNamed_iff {name word : List UInt8} (h : 58 ∉ word) (value : List UInt8) :
    IsNamed name (word ++ 58 :: value) ↔ word.map toLower = name := by
  rw [IsNamed, takeWhile_ne h]
  simp

/-- The value behind a colon. -/
theorem fieldNumber_eq {word : List UInt8} (h : 58 ∉ word) {value : List UInt8}
    (hvalue : ∀ b ∈ value.head?, b ≠ 32 ∧ b ≠ 9) :
    fieldNumber (word ++ 58 :: value) =
      if value.takeWhile isDigit ≠ [] ∧
          ((value.drop (value.takeWhile isDigit).length).all fun b => b = 32 ∨ b = 9) = true
      then some (digitsValue (value.takeWhile isDigit)) else none := by
  have hstart : (value.dropWhile fun b => b = 32 ∨ b = 9) = value := by
    cases value with
    | nil => rfl
    | cons b value => exact List.dropWhile_cons_of_neg (by simpa using hvalue b rfl)
  unfold fieldNumber
  simp only [dropWhile_ne h, List.drop_succ_cons, List.drop_zero, hstart]

/-- A number begins with a digit. -/
theorem head_decimal (n : ℕ) : ∀ b ∈ (decimal n).head?, isDigit b = true :=
  fun _ hb => isDigit_of_mem_decimal (List.mem_of_mem_head? hb)

/-- A number in a field is read. -/
theorem fieldNumber_decimal {word : List UInt8} (h : 58 ∉ word) (n : ℕ) :
    fieldNumber (word ++ 58 :: decimal n) = some n := by
  have hdigits : (decimal n).takeWhile isDigit = decimal n :=
    List.takeWhile_eq_self_iff.mpr fun b hb => isDigit_of_mem_decimal hb
  rw [fieldNumber_eq h, hdigits, if_pos, digitsValue_decimal]
  · refine ⟨decimal_ne_nil n, ?_⟩
    rw [List.drop_length]
    rfl
  · intro b hb
    have hdigit := head_decimal n b hb
    refine ⟨?_, ?_⟩
    · rintro rfl
      exact absurd hdigit (by decide)
    · rintro rfl
      exact absurd hdigit (by decide)

/-- A number with a sign is no length. -/
theorem fieldNumber_negative {word : List UInt8} (h : 58 ∉ word) (digits : List UInt8) :
    fieldNumber (word ++ 58 :: 45 :: digits) = none := by
  have hsign : (45 :: digits).takeWhile isDigit = [] :=
    List.takeWhile_cons_of_neg (by decide)
  rw [fieldNumber_eq h, hsign, if_neg fun hnot => hnot.1 rfl]
  intro b hb
  cases hb
  decide

/-! ## The header lines of a request -/

section Request

variable (r : RequestInput)

/-- The name of the length with its colon. -/
theorem ascii_contentLength : ascii "Content-Length:" = ascii "Content-Length" ++ [58] := by decide

/-- The line of the length is a field. -/
theorem lengthLine_eq (value : List UInt8) :
    ascii "Content-Length:" ++ value = ascii "Content-Length" ++ 58 :: value := by
  rw [ascii_contentLength, List.append_assoc]
  rfl

/-- The host line is a field. -/
theorem hostLine_eq : r.hostLine =
    ascii "Host" ++ 58 :: (ascii " " ++ r.ip ++ ascii ":" ++ decimal r.port.toNat) := by
  have hhost : ascii "Host: " = ascii "Host" ++ 58 :: ascii " " := by decide
  rw [RequestInput.hostLine, hhost]
  simp

/-- Its name is `host`. -/
theorem isNamed_hostLine (name : List UInt8) : IsNamed name r.hostLine ↔ ascii "host" = name := by
  have hlower : (ascii "Host").map toLower = ascii "host" := by decide
  rw [hostLine_eq, isNamed_iff (by decide), hlower]

/-- The name of the length is `content-length`. -/
theorem isNamed_lengthLine (name value : List UInt8) :
    IsNamed name (ascii "Content-Length:" ++ value) ↔ ascii "content-length" = name := by
  have hlower : (ascii "Content-Length").map toLower = ascii "content-length" := by decide
  rw [lengthLine_eq, isNamed_iff (by decide), hlower]

/-- The headers that are added are lines with other names. -/
theorem header_of_added {line : List UInt8} (h : line ∈ r.added) : (IsLine line ∧ line ≠ []) ∧
    ¬ IsNamed (ascii "host") line ∧ ¬ IsNamed (ascii "content-length") line := by
  obtain ⟨step, hstep, hmem⟩ := List.mem_filterMap.mp h
  exact r.header_lines step hstep line hmem

/-- The length that is announced for a body, if it is one. -/
theorem announcedLength_eq (hbody : r.body.length < 4294967296) :
    announcedLength (r.hostLine :: (r.added ++ writtenLength r.body)) =
      if r.body.length < 2147483648 then some r.body.length else none := by
  have hhost : ¬ IsNamed (ascii "content-length") r.hostLine := by
    rw [isNamed_hostLine]
    decide
  have hadded : r.added.find? (fun line => IsNamed (ascii "content-length") line) = none := by
    refine List.find?_eq_none.mpr fun line hline => ?_
    simpa using (header_of_added r hline).2.2
  unfold announcedLength
  rw [List.find?_cons_of_neg (by simpa using hhost), List.find?_append, hadded, Option.none_or]
  by_cases hbody0 : r.body = []
  · rw [writtenLength, if_pos hbody0, hbody0]
    rfl
  · have hfield : IsNamed (ascii "content-length")
        (ascii "Content-Length:" ++ decimalInt (strlen32 r.body)) :=
      (isNamed_lengthLine _ _).mpr rfl
    have hlength : (strlen32 r.body).toNat = r.body.length := by
      rw [toNat_strlen32]
      exact Nat.mod_eq_of_lt hbody
    have hpow : (2147483648 : ℕ) = 2 ^ 31 := rfl
    rw [writtenLength, if_neg hbody0, List.find?_cons_of_pos (by simpa using hfield),
      Option.elim_some, lengthLine_eq, decimalInt, hlength, hpow]
    split_ifs with hshort
    · exact fieldNumber_decimal (by decide) _
    · exact fieldNumber_negative (by decide) _

/-! ## What is read -/

/-- The request line is three words. -/
theorem requestLine_eq :
    r.requestLine = r.method.text ++ 32 :: (r.path ++ 32 :: ascii "HTTP/1.0") := by
  have hblank : ascii " " = [32] := by decide
  have hversion : ascii " HTTP/1.0" = 32 :: ascii "HTTP/1.0" := by decide
  rw [RequestInput.requestLine, hblank, hversion]
  simp

/-- There is no blank in a word. -/
theorem not_blank_of_word {word : List UInt8} (h : IsWord word) : 32 ∉ word :=
  fun hmem => absurd (h.2 32 hmem) (by decide)

/-- A word is part of one line. -/
theorem isLine_of_word {word : List UInt8} (h : IsWord word) (hzero : 0 ∉ word) : IsLine word := by
  intro b hb
  have hspace := h.2 b hb
  refine ⟨?_, ?_, ?_⟩
  · rintro rfl
    exact hzero hb
  · rintro rfl
    exact absurd hspace (by decide)
  · rintro rfl
    exact absurd hspace (by decide)

/-- The request line is one line. -/
theorem isLine_requestLine : IsLine r.requestLine := by
  have hmethod : IsLine r.method.text := by
    cases r.method <;> decide
  have hblank : IsLine (ascii " ") := by decide
  have hversion : IsLine (ascii " HTTP/1.0") := by decide
  refine isLine_append (isLine_append (isLine_append hmethod hblank) ?_) hversion
  exact isLine_of_word r.path_word r.path_no_zero

/-- **What is read** of a text of lines and a body. -/
theorem parseRequest_written {lines : List (List UInt8)} (hlines : ∀ l ∈ lines, IsLine l ∧ l ≠ [])
    (body : List UInt8) :
    parseRequest (written (r.requestLine :: lines) ++ crlf ++ body) =
      (announcedLength lines).bind fun n =>
        if n ≤ body.length then some ⟨r.method.text, r.path, lines, body.take n, body.drop n⟩
        else none := by
  have hblank : strstr blankLine (written (r.requestLine :: lines) ++ crlf ++ body) =
      some (crlf ++ (crlf ++ body)) := by
    rw [← ascii_blankLine, List.append_assoc]
    exact strstr_blank_written _ _ _ (isLine_requestLine r) hlines
  have hhead : (written (r.requestLine :: lines) ++ crlf ++ body).take
      ((written (r.requestLine :: lines) ++ crlf ++ body).length -
        (crlf ++ (crlf ++ body)).length) = r.requestLine ++ lines.flatMap (crlf ++ ·) := by
    have hsplit : written (r.requestLine :: lines) ++ crlf ++ body =
        (r.requestLine ++ lines.flatMap (crlf ++ ·)) ++ (crlf ++ (crlf ++ body)) := by
      rw [written_join]
      simp only [List.append_assoc]
    rw [hsplit, List.length_append, Nat.add_sub_cancel, List.take_left]
  have hjoin := crlfLines_join (isLine_requestLine r) fun l hl => (hlines l hl).1
  have hmethod : r.requestLine.takeWhile (· ≠ 32) = r.method.text := by
    rw [requestLine_eq]
    refine takeWhile_ne ?_ _
    cases r.method <;> decide
  have htarget : r.requestLine.drop (r.method.text.length + 1) =
      r.path ++ 32 :: ascii "HTTP/1.0" := by
    rw [requestLine_eq, ← List.drop_drop, List.drop_left, List.drop_succ_cons, List.drop_zero]
  have hpath : (r.path ++ 32 :: ascii "HTTP/1.0").takeWhile (· ≠ 32) = r.path :=
    takeWhile_ne (not_blank_of_word r.path_word) _
  have hversion : (r.path ++ 32 :: ascii "HTTP/1.0").drop (r.path.length + 1) =
      ascii "HTTP/1.0" := by
    rw [← List.drop_drop, List.drop_left, List.drop_succ_cons, List.drop_zero]
  have hbody : (crlf ++ (crlf ++ body)).drop blankLine.length = body := rfl
  unfold parseRequest
  rw [hblank, Option.bind_some]
  simp only [hhead, hjoin, List.headD_cons, List.tail_cons, hmethod, htarget, hpath, hversion,
    hbody, if_true]

/-- A number with its sign is part of one line. -/
theorem isLine_decimalInt (n : UInt32) : IsLine (decimalInt n) := by
  unfold decimalInt
  split_ifs
  · exact isLine_decimal _
  · have hsign : IsLine [45] := by decide
    exact isLine_append hsign (isLine_decimal _)

/-- The headers are lines, and none is empty. -/
theorem isLine_headers :
    ∀ l ∈ r.hostLine :: (r.added ++ writtenLength r.body), IsLine l ∧ l ≠ [] := by
  intro l hl
  rcases List.mem_cons.mp hl with rfl | hl
  · have hhost : IsLine (ascii "Host: ") := by decide
    have hcolon : IsLine (ascii ":") := by decide
    have hip := isLine_of_word r.ip_word r.ip_no_zero
    refine ⟨isLine_append (isLine_append (isLine_append hhost hip) hcolon) (isLine_decimal _), ?_⟩
    rw [hostLine_eq]
    simp
  · rcases List.mem_append.mp hl with hl | hl
    · exact (header_of_added r hl).1
    · unfold writtenLength at hl
      split_ifs at hl
      · cases hl
      · have hname : IsLine (ascii "Content-Length:") := by decide
        rw [List.mem_singleton.mp hl]
        refine ⟨isLine_append hname (isLine_decimalInt _), ?_⟩
        rw [lengthLine_eq]
        simp

/-- **What is read** of the text that the code writes: the request, if its length is an `int`. -/
theorem parseRequest_rawText (hbody : r.body.length < 4294967296) :
    parseRequest (rawText r) =
      if r.body.length < 2147483648 then
        some ⟨r.method.text, r.path, r.hostLine :: (r.added ++ writtenLength r.body), r.body, []⟩
      else none := by
  rw [rawText, parseRequest_written r (isLine_headers r), announcedLength_eq r hbody]
  split_ifs with hshort
  · rw [Option.bind_some, if_pos (Nat.le_refl _), List.take_length, List.drop_length]
  · rfl

/-- The lines that are fields of the client's own, and the others. -/
theorem filter_headers :
    ((r.hostLine :: (r.added ++ writtenLength r.body)).filter fun line =>
        IsNamed (ascii "host") line) = [r.hostLine] ∧
      ((r.hostLine :: (r.added ++ writtenLength r.body)).filter fun line =>
        ¬ IsNamed (ascii "host") line ∧ ¬ IsNamed (ascii "content-length") line) = r.added := by
  have hhost := isNamed_hostLine r (ascii "host")
  have hadded : ∀ line ∈ r.added, ¬ IsNamed (ascii "host") line ∧
      ¬ IsNamed (ascii "content-length") line := fun line hline => (header_of_added r hline).2
  have hlength : ∀ line ∈ writtenLength r.body, ¬ IsNamed (ascii "host") line ∧
      IsNamed (ascii "content-length") line := by
    intro line hline
    unfold writtenLength at hline
    split_ifs at hline
    · cases hline
    · rw [List.mem_singleton.mp hline, isNamed_lengthLine, isNamed_lengthLine]
      decide
  constructor
  · have hnone : (r.added ++ writtenLength r.body).filter
        (fun line => IsNamed (ascii "host") line) = [] := by
      refine List.filter_eq_nil_iff.mpr fun line hline => ?_
      rcases List.mem_append.mp hline with hline | hline
      · simpa using (hadded line hline).1
      · simpa using (hlength line hline).1
    rw [List.filter_cons_of_pos (by simpa using hhost.mpr rfl), hnone]
  · have hall : r.added.filter (fun line => ¬ IsNamed (ascii "host") line ∧
        ¬ IsNamed (ascii "content-length") line) = r.added :=
      List.filter_eq_self.mpr fun line hline => by simpa using hadded line hline
    have hnone : (writtenLength r.body).filter (fun line => ¬ IsNamed (ascii "host") line ∧
        ¬ IsNamed (ascii "content-length") line) = [] := by
      refine List.filter_eq_nil_iff.mpr fun line hline => ?_
      have hfield := (hlength line hline).2
      simp [hfield]
    rw [List.filter_cons_of_neg (by simpa using fun h => absurd (hhost.mpr rfl) h),
      List.filter_append, hall, hnone, List.append_nil]

/-- The request is read as it was made. -/
theorem readAs_self : r.ReadAs
    ⟨r.method.text, r.path, r.hostLine :: (r.added ++ writtenLength r.body), r.body, []⟩ := by
  obtain ⟨hhost, hadded⟩ := filter_headers r
  refine ⟨rfl, rfl, hhost, hadded, ?_, rfl, rfl⟩
  constructor
  · rintro ⟨line, hline, hfield⟩ hbody
    rw [writtenLength, if_pos hbody, List.append_nil] at hline
    rcases List.mem_cons.mp hline with rfl | hline
    · exact absurd ((isNamed_hostLine r _).mp hfield) (by decide)
    · exact (header_of_added r hline).2.2 hfield
  · intro hbody
    refine ⟨ascii "Content-Length:" ++ decimalInt (strlen32 r.body), ?_, ?_⟩
    · refine List.mem_cons_of_mem _ (List.mem_append_right _ ?_)
      rw [writtenLength, if_neg hbody]
      exact List.mem_cons_self
    · rw [isNamed_lengthLine]

end Request

end MirrorLink.Analysis
