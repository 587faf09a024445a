import MirrorLink.Interface.HttpResponse

/-!
# Scanning the beginnings of a response

After every chunk the client scans everything it has read so far.  The scan of the whole
response finds the code and the body (`scanResponse_bytes`); the scan of a shorter beginning
goes on (`scanResponse_take`), wherever it ends: before or in the header with the length,
where nothing is found, in its digits, where a smaller length is found that is not zero, or
before or in the body, which is still too short.
-/

set_option autoImplicit false

namespace MirrorLink.Analysis

open MirrorLink.Library MirrorLink.Program

/-! ## The status -/

/-- The minor version is one digit. -/
theorem length_decimal_minor (v : HttpVersion) : (decimal v.minor).length = 1 := by
  cases v <;> rfl

/-- A code is three digits. -/
theorem length_decimal_code {n : ℕ} (hge : 100 ≤ n) (hle : n ≤ 999) : (decimal n).length = 3 := by
  have hupper := (length_decimal_le_iff (n := n) (k := 3) (by decide)).mpr (by omega)
  have hlower : ¬ (decimal n).length ≤ 2 := by
    rw [length_decimal_le_iff (by decide)]
    omega
  omega

/-- The format of the status line, directive by directive. -/
theorem directives_statusLine :
    directives "HTTP/1.%1d %3d %*s\r\n".toList = (ascii "HTTP/1.").map .char ++
      [.int (some 1), .space, .int (some 3), .space, .word false, .space, .space] := by
  decide

/-- The status line is read, whatever follows the code. -/
theorem sscanf_statusText (v : HttpVersion) {code : ℕ} (hge : 100 ≤ code) (hle : code ≤ 999)
    (rest : List UInt8) :
    ∃ more, sscanf (directives "HTTP/1.%1d %3d %*s\r\n".toList) (ascii "HTTP/1." ++
        (decimal v.minor ++ (ascii " " ++ (decimal code ++ rest)))) =
      .int v.minor :: .int code :: more := by
  have hminor := sscanf_decimal
    [.space, .int (some 3), .space, .word false, .space, .space] v.minor
    (ascii " " ++ (decimal code ++ rest))
  have hcode := sscanf_decimal [.space, .word false, .space, .space] code rest
  have hblank : (ascii " " ++ (decimal code ++ rest)).dropWhile isSpace = decimal code ++ rest :=
    dropWhile_isSpace_digits _ _ (decimal_ne_nil _) fun b hb => isDigit_of_mem_decimal hb
  rw [length_decimal_minor] at hminor
  rw [length_decimal_code hge hle] at hcode
  rw [directives_statusLine, sscanf_chars, hminor, sscanf, hblank, hcode]
  exact ⟨_, rfl⟩

/-- The status line gives the version and the code. -/
theorem sscanf_status (r : HttpResponse) :
    ∃ more, sscanf (directives "HTTP/1.%1d %3d %*s\r\n".toList) r.bytes =
      .int r.version.minor :: .int r.code :: more := by
  obtain ⟨rest, hbytes⟩ : ∃ rest, r.bytes = ascii "HTTP/1." ++ (decimal r.version.minor ++
      (ascii " " ++ (decimal r.code ++ rest))) := by
    simp only [ResponseParts.bytes, ResponseParts.head, ResponseParts.front, written,
      List.flatMap_cons, ResponseParts.statusLine, List.append_assoc]
    exact ⟨_, rfl⟩
  rw [hbytes]
  exact sscanf_statusText r.version r.code_ge r.code_le rest

/-! ## The header with the length -/

/-- The part of the response from the header with the length on. -/
def fromLength (r : ResponseParts) : List UInt8 := r.middle ++ r.body

/-- A response is what stands in front of its length, and the rest. -/
theorem bytes_eq_front (r : ResponseParts) : r.bytes = r.front ++ fromLength r := by
  simp [ResponseParts.bytes, ResponseParts.head, fromLength]

/-- The name of the length has fifteen characters. -/
theorem length_ascii_contentLength : (ascii "Content-Length:").length = 15 := rfl

/-- From there the response is the length, the end of its line, and the rest. -/
theorem fromLength_eq (r : ResponseParts) :
    ∃ more, fromLength r =
      ascii "Content-Length:" ++ (32 :: (decimal r.body.length ++ (crlf ++ more))) := by
  have hline : ascii "Content-Length: " = ascii "Content-Length:" ++ [32] := by decide
  simp only [fromLength, ResponseParts.middle, written, List.flatMap_cons,
    ResponseParts.lengthLine, hline, List.append_assoc, List.singleton_append]
  exact ⟨_, rfl⟩

/-- The middle has the line of the length and the blank line. -/
theorem length_middle_ge (r : ResponseParts) :
    16 + (decimal r.body.length).length + 4 ≤ r.middle.length := by
  have hlen : (ascii "Content-Length: ").length = 16 := rfl
  have hcrlf : crlf.length = 2 := rfl
  simp only [ResponseParts.middle, written, List.flatMap_cons, ResponseParts.lengthLine,
    List.length_append, hlen, hcrlf]
  omega

/-- From the length on there are the middle and the body. -/
theorem length_fromLength (r : ResponseParts) :
    (fromLength r).length = r.middle.length + r.body.length := List.length_append

/-- The length is found where it stands. -/
theorem strstr_contentLength (r : HttpResponse) :
    strstr (ascii "Content-Length:") r.bytes = some (fromLength r.toResponseParts) := by
  have hmiddle := length_middle_ge r.toResponseParts
  obtain ⟨more, hmore⟩ := fromLength_eq r.toResponseParts
  rw [bytes_eq_front]
  apply strstr_append
  · rw [hmore]
    exact List.prefix_append _ _
  · intro i hi hp
    -- an occurrence that begins in the front ends before the body
    have hlen : i + 15 ≤ r.head.length := by
      rw [ResponseParts.head, List.length_append]
      omega
    rw [← bytes_eq_front, ResponseParts.bytes, List.drop_append_of_le_length (by omega)] at hp
    have hhead : ascii "Content-Length:" <+: r.head.drop i := by
      apply List.prefix_of_prefix_length_le hp (List.prefix_append _ _)
      rw [List.length_drop, length_ascii_contentLength]
      omega
    exact absurd (r.one_length i hhead) (by omega)

/-- **Where the header is found** in a beginning of the response: in place, or not at all. -/
theorem findContentLength_take (r : HttpResponse) (j : ℕ) :
    findContentLength (r.bytes.take j) =
      if j < r.front.length + 15 then none
      else some ((fromLength r.toResponseParts).take (j - r.front.length)) := by
  have hmiddle := length_middle_ge r.toResponseParts
  have hfront : r.bytes.length - (fromLength r.toResponseParts).length = r.front.length := by
    rw [bytes_eq_front, List.length_append]
    omega
  have htake := strstr_take (by decide) (strstr_contentLength r) j
  rw [length_ascii_contentLength, hfront] at htake
  unfold findContentLength
  rw [htake]
  by_cases hj : j < r.front.length + 15
  · have hhead : r.bytes.take j = r.head.take j := by
      apply List.take_append_of_le_length
      rw [ResponseParts.head, List.length_append]
      omega
    rw [if_pos hj, hhead]
    exact strstr_take_eq_none _ _ r.no_other_length j
  · rw [if_neg hj]

/-- **The length that is read** where the header ends somewhere after its colon: none before
the digits, and the value of the digits that are there. -/
theorem scanContentLength_take (r : ResponseParts) {k : ℕ} (hk : 15 ≤ k) :
    scanContentLength ((fromLength r).take k) =
      if k ≤ 16 then none
      else some (storeInt (digitsValue ((decimal r.body.length).take (k - 16)))) := by
  have hformat : directives "Content-Length: %d\r\n".toList =
      (ascii "Content-Length:").map .char ++ [.space, .int none, .space, .space] := by
    decide
  have hother : ∀ text, sscanf (directives "CONTENT-LENGTH: %d\r\n".toList)
      (ascii "Content-Length:" ++ text) = [] := by
    intro text
    rfl
  obtain ⟨more, hmore⟩ := fromLength_eq r
  obtain ⟨m, rfl⟩ := Nat.exists_eq_add_of_le hk
  have htext : (fromLength r).take (15 + m) = ascii "Content-Length:" ++
      (32 :: (decimal r.body.length ++ (crlf ++ more))).take m := by
    rw [hmore]
    show List.take ((ascii "Content-Length:").length + m) _ = _
    exact List.take_length_add_append m
  unfold scanContentLength
  rw [htext, hother, hformat, sscanf_chars, sscanf]
  rcases m with _ | _ | i
  · rfl
  · rfl
  · -- at least one digit is there
    have hsplit : (32 :: (decimal r.body.length ++ (crlf ++ more))).take (i + 2) =
        32 :: ((decimal r.body.length).take (i + 1) ++
          (crlf ++ more).take (i + 1 - (decimal r.body.length).length)) := by
      rw [List.take_succ_cons, List.take_append]
    have hne : (decimal r.body.length).take (i + 1) ≠ [] := by
      simp [decimal_ne_nil]
    have hdigits : ∀ b ∈ (decimal r.body.length).take (i + 1), isDigit b = true :=
      fun b hb => isDigit_of_mem_decimal (List.mem_of_mem_take hb)
    have hrest : ∀ b ∈ ((crlf ++ more).take (i + 1 - (decimal r.body.length).length)).head?,
        isDigit b = false := by
      intro b hb
      rw [crlf] at hb
      cases h : i + 1 - (decimal r.body.length).length with
      | zero => simp [h] at hb
      | succ _ =>
        rw [h, List.cons_append, List.take_succ_cons, List.head?_cons, Option.mem_some] at hb
        rw [← hb]
        rfl
    rw [hsplit, List.dropWhile_cons_of_pos (by decide), dropWhile_isSpace_digits _ _ hne hdigits,
      sscanf_int none _ _ _ hne hdigits (takeWhile_isDigit_append _ _ hdigits hrest),
      if_neg (by omega), show 15 + (i + 2) - 16 = i + 1 by omega]

/-! ## The blank line -/

/-- The blank line, byte by byte. -/
theorem ascii_blank : ascii "\r\n\r\n" = 13 :: [10, 13, 10] := by decide

/-- A number is part of one line. -/
theorem isLine_decimal (n : ℕ) : IsLine (decimal n) := by
  intro b hb
  have hdigit := isDigit_of_mem_decimal hb
  refine ⟨?_, ?_, ?_⟩ <;> rintro rfl <;> exact absurd hdigit (by decide)

/-- Parts of one line make one line. -/
theorem isLine_append {a b : List UInt8} (ha : IsLine a) (hb : IsLine b) : IsLine (a ++ b) := by
  intro c hc
  rcases List.mem_append.mp hc with hc | hc
  · exact ha c hc
  · exact hb c hc

/-- The length is one line. -/
theorem isLine_lengthLine (r : ResponseParts) : IsLine r.lengthLine :=
  isLine_append (by decide) (isLine_decimal _)

/-- There is no blank line where a line ends and another begins. -/
theorem strstr_blank_skip (line rest : List UInt8) (hline : IsLine line)
    (hrest : ∀ b ∈ rest.head?, b ≠ 13) :
    strstr (ascii "\r\n\r\n") (line ++ (crlf ++ rest)) = strstr (ascii "\r\n\r\n") rest := by
  have hcr : (13 : UInt8) ∉ line := fun hmem => (hline 13 hmem).2.2 rfl
  rw [ascii_blank, strstr_skip _ _ _ _ hcr, crlf, List.cons_append, List.cons_append,
    List.nil_append, strstr_cons_skip, strstr_cons_skip]
  · intro hp
    exact absurd (List.cons_prefix_cons.mp hp).1 (by decide)
  · intro hp
    have htail := (List.cons_prefix_cons.mp (List.cons_prefix_cons.mp hp).2).2
    rcases rest with _ | ⟨b, rest⟩
    · exact absurd (List.prefix_nil.mp htail) (by decide)
    · exact hrest b rfl (List.cons_prefix_cons.mp htail).1.symm

/-- The first blank line is the one after the last line. -/
theorem strstr_blank_written (line : List UInt8) (lines : List (List UInt8)) (body : List UInt8)
    (hline : IsLine line) (hlines : ∀ l ∈ lines, IsLine l ∧ l ≠ []) :
    strstr (ascii "\r\n\r\n") (written (line :: lines) ++ (crlf ++ body)) =
      some (crlf ++ (crlf ++ body)) := by
  induction lines generalizing line with
  | nil =>
    have hcr : (13 : UInt8) ∉ line := fun hmem => (hline 13 hmem).2.2 rfl
    have hwritten : written [line] = line ++ crlf := by simp [written]
    rw [hwritten, List.append_assoc, ascii_blank, strstr_skip _ _ _ _ hcr]
    exact strstr_begin _ _ (List.prefix_append [13, 10, 13, 10] body)
  | cons next lines ih =>
    obtain ⟨hnext, hlines'⟩ := List.forall_mem_cons.mp hlines
    have hwritten : written (line :: next :: lines) =
        line ++ (crlf ++ written (next :: lines)) := by
      simp [written]
    have hhead : ∀ b ∈ (written (next :: lines) ++ (crlf ++ body)).head?, b ≠ 13 := by
      obtain ⟨a, next, rfl⟩ := List.exists_cons_of_ne_nil hnext.2
      intro b hb
      have hab : a = b := by simpa [written] using hb
      rw [← hab]
      exact (hnext.1 a List.mem_cons_self).2.2
    rw [hwritten, List.append_assoc, List.append_assoc, strstr_blank_skip _ _ hline hhead]
    exact ih next hnext.1 hlines'

/-- The blank line is found at the end of the head. -/
theorem strstr_blank (r : HttpResponse) :
    strstr (ascii "\r\n\r\n") (fromLength r.toResponseParts) =
      some (crlf ++ (crlf ++ r.body)) := by
  rw [fromLength, ResponseParts.middle, List.append_assoc]
  apply strstr_blank_written _ _ _ (isLine_lengthLine _)
  intro l hl
  exact r.lines l (List.mem_append_right _ hl)

/-! ## The scan -/

/-- A number of 32 bits is stored as it is. -/
theorem toNat_storeInt {v : ℕ} (h : v < 2 ^ 32) : (storeInt (v : ℤ)).toNat = v := by
  have hclamp : max (-9223372036854775808) (min (v : ℤ) 9223372036854775807) = (v : ℤ) := by
    omega
  unfold storeInt UInt32.ofInt
  rw [hclamp, UInt32.toNat_ofNat_of_lt']
  · omega
  · show ((v : ℤ) % 2 ^ 32).toNat < 2 ^ 32
    omega

/-- The digits that are there are a length that is not zero and fits. -/
theorem partialLength (r : HttpResponse) {i : ℕ} (hi : 0 < i) :
    0 < digitsValue ((decimal r.body.length).take i) ∧
      digitsValue ((decimal r.body.length).take i) < 2 ^ 32 := by
  have hpos : 0 < r.body.length := List.length_pos_iff.mpr r.body_ne_nil
  have hle := digitsValue_take_le (decimal r.body.length) i
  have hlt := r.length_lt
  rw [digitsValue_decimal] at hle
  rw [ResponseParts.bytes, List.length_append] at hlt
  exact ⟨digitsValue_take_decimal_pos hpos hi, by omega⟩

/-- What follows the header is enough only at the end of the response. -/
theorem scanBody_take (r : HttpResponse) (rsp : HttpRsp) (k : ℕ) (hk : 15 ≤ k)
    (hle : k ≤ (fromLength r.toResponseParts).length) :
    scanBody rsp ((fromLength r.toResponseParts).take k) =
      if k < (fromLength r.toResponseParts).length then (rsp, false)
      else ({ rsp with body := strAppend rsp.body r.body }, true) := by
  have hmiddle := length_middle_ge r.toResponseParts
  have hlength := length_fromLength r.toResponseParts
  have hblank := strstr_take (by decide) (strstr_blank r) k
  have hbefore : (fromLength r.toResponseParts).length - (crlf ++ (crlf ++ r.body)).length =
      r.middle.length - 4 := by
    have hcrlf : crlf.length = 2 := rfl
    rw [List.length_append, List.length_append, hcrlf, hlength]
    omega
  have hword : (ascii "\r\n\r\n").length = 4 := rfl
  rw [hbefore, hword, Nat.sub_add_cancel (by omega)] at hblank
  unfold scanBody
  rw [scanContentLength_take r.toResponseParts hk]
  by_cases h16 : k ≤ 16
  · rw [if_pos h16, if_pos (by omega)]
  rw [if_neg h16]
  obtain ⟨hpos, hlt⟩ := partialLength r (i := k - 16) (by omega)
  have hvalue := toNat_storeInt hlt
  have hlen : 0 < storeInt (digitsValue ((decimal r.body.length).take (k - 16)) : ℤ) := by
    rw [UInt32.lt_iff_toNat_lt, hvalue]
    exact hpos
  simp only [if_pos hlen, hvalue]
  by_cases hhead : k < r.middle.length
  · rw [hblank, if_pos hhead, if_pos (by omega)]
  -- the blank line is there, and so are all digits
  have hdigits : (decimal r.body.length).take (k - 16) = decimal r.body.length :=
    List.take_of_length_le (by omega)
  have hbody : ((crlf ++ (crlf ++ r.body)).take (k - (r.middle.length - 4))).drop 4 =
      r.body.take (k - r.middle.length) := by
    rw [List.drop_take]
    show List.take (k - (r.middle.length - 4) - 4) r.body = _
    rw [show k - (r.middle.length - 4) - 4 = k - r.middle.length by omega]
  simp only [hblank, if_neg hhead, hdigits, digitsValue_decimal, hbody, List.length_take]
  by_cases hend : k < (fromLength r.toResponseParts).length
  · rw [if_neg (by omega), if_pos hend]
  · rw [if_pos (by omega), if_neg hend, List.take_of_length_le (by omega)]

/-- **A beginning of the response** does not end the scan. -/
theorem scanResponse_take (r : HttpResponse) (rsp : HttpRsp) (j : ℕ) (hj : j < r.bytes.length) :
    ∃ errcode, scanResponse rsp (r.bytes.take j) = ({ rsp with errcode := errcode }, false) := by
  have hlength : r.bytes.length = r.front.length + (fromLength r.toResponseParts).length := by
    rw [bytes_eq_front, List.length_append]
  unfold scanResponse
  split
  · rename_i errcode _ _
    refine ⟨UInt16.ofInt errcode, ?_⟩
    rw [findContentLength_take]
    by_cases hfound : j < r.front.length + 15
    · rw [if_pos hfound]
    · rw [if_neg hfound]
      simp only
      rw [scanBody_take r _ _ (by omega) (by omega), if_pos (by omega)]
  · exact ⟨rsp.errcode, rfl⟩

/-- **The whole response** ends it with the code and the body. -/
theorem scanResponse_bytes (r : HttpResponse) (errcode : UInt16) :
    scanResponse ⟨errcode, none⟩ r.bytes = (⟨UInt16.ofNat r.code, some r.body⟩, true) := by
  have hlength : r.bytes.length = r.front.length + (fromLength r.toResponseParts).length := by
    rw [bytes_eq_front, List.length_append]
  have hmiddle := length_middle_ge r.toResponseParts
  have hfrom := length_fromLength r.toResponseParts
  obtain ⟨more, hstatus⟩ := sscanf_status r
  have hfind := findContentLength_take r r.bytes.length
  rw [List.take_length, if_neg (by omega)] at hfind
  unfold scanResponse
  rw [hstatus]
  simp only [hfind]
  rw [scanBody_take r _ _ (by omega) (by omega), if_neg (by omega)]
  have hcode : UInt16.ofInt (r.code : ℤ) = UInt16.ofNat r.code := by
    have hmod : ((r.code : ℤ) % 2 ^ 16).toNat = r.code % 2 ^ 16 := by omega
    unfold UInt16.ofInt
    rw [hmod, UInt16.ofNat_mod_size]
  have hbody : strAppend none r.body = some r.body := by
    rw [strAppend, if_neg (by simpa using r.body_ne_nil)]
    rfl
  rw [hcode, hbody]

end MirrorLink.Analysis
