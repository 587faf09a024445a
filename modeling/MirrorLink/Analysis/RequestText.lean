import MirrorLink.Interface.HttpRequest

/-!
# The text of a request, if there is memory for it

A text is appended, or there is no memory for it, unless its length is a multiple of 2^32; then
it is left out (`strAppend32_of_kept`, `strAppend32_of_dropped`).  A request none of whose texts
is left out is written in full exactly if its length fits (`sent_of_kept`).
-/

set_option autoImplicit false

namespace MirrorLink.Analysis

open MirrorLink.Library MirrorLink.Program

/-! ## Checks -/

/-- A value that is there under a condition; otherwise memory is overwritten. -/
def checked {α : Type} (p : Prop) [Decidable p] (a : α) : Except Fault α :=
  if p then .ok a else .error .overflow

section Checked

variable {α β : Type} {p q : Prop} [Decidable p] [Decidable q] {a : α} {b : β}
  {f : α → Except Fault β}

/-- A check that holds lets the value through. -/
theorem checked_pos (h : p) : checked p a = .ok a := if_pos h

/-- A value that was let through passed its check. -/
theorem checked_eq_ok {a' : α} (h : checked p a = .ok a') : p ∧ a' = a := by
  unfold checked at h
  split_ifs at h with hp
  cases h
  exact ⟨hp, rfl⟩

/-- **Checks in sequence**: one that implies those before it is all that counts. -/
theorem checked_bind (hqp : q → p) (h : p → f a = checked q b) :
    (checked p a >>= f) = checked q b := by
  by_cases hp : p
  · rw [checked_pos hp, ← h hp]
    rfl
  · have hq : ¬ q := fun hq => hp (hqp hq)
    unfold checked
    rw [if_neg hp, if_neg hq]
    rfl

end Checked

/-! ## One text -/

/-- A text of this length has memory. -/
def Room (n : ℕ) : Prop := n + 1 < 4294967296

instance (n : ℕ) : Decidable (Room n) := inferInstanceAs (Decidable (_ < _))

/-- The text is not left out for its length. -/
def IsKept (tail : List UInt8) : Prop := tail.length % 4294967296 = 0 → tail = []

/-- A text below 2³² is kept. -/
theorem isKept_of_lt {tail : List UInt8} (h : tail.length < 4294967296) : IsKept tail := by
  intro hmod
  rw [Nat.mod_eq_of_lt h] at hmod
  exact List.eq_nil_of_length_eq_zero hmod

/-- A length is counted modulo 2³². -/
theorem toNat_strlen32 (text : List UInt8) :
    (strlen32 text).toNat = text.length % 4294967296 := rfl

/-- It is zero at the multiples of 2³². -/
theorem strlen32_eq_zero_iff (text : List UInt8) :
    strlen32 text = 0 ↔ text.length % 4294967296 = 0 := by
  rw [← UInt32.toNat_inj, toNat_strlen32]
  rfl

/-- A text whose length is counted as zero is dropped. -/
theorem strAppend32_of_dropped (str : Option (List UInt8)) {tail : List UInt8}
    (h : tail.length % 4294967296 = 0) : strAppend32 str tail = .ok str := by
  unfold strAppend32
  rw [if_pos ((strlen32_eq_zero_iff tail).mpr h)]
  rfl

/-- **A text is appended** if there is room for both. -/
theorem strAppend32_of_kept {str : Option (List UInt8)} (hstr : Room (str.getD []).length)
    {tail : List UInt8} (hkept : IsKept tail) :
    strAppend32 str tail =
      checked (Room ((str.getD []).length + tail.length)) (strAppend str tail) := by
  by_cases htail : tail = []
  · rw [htail, strAppend32_of_dropped str (by rfl), strAppend_nil]
    exact (checked_pos hstr).symm
  · have hln : strlen32 tail ≠ 0 := fun h => htail (hkept ((strlen32_eq_zero_iff tail).mp h))
    have hlo : (strlen32 (str.getD [])).toNat = (str.getD []).length := by
      rw [toNat_strlen32]
      exact Nat.mod_eq_of_lt (by unfold Room at hstr; omega)
    have hsize : (strlen32 (str.getD []) + strlen32 tail + 1).toNat =
        ((str.getD []).length + tail.length % 4294967296 + 1) % 4294967296 := by
      rw [UInt32.toNat_add, UInt32.toNat_add, hlo, toNat_strlen32]
      have hone : (1 : UInt32).toNat = 1 := rfl
      rw [hone]
      omega
    have hne : tail.length ≠ 0 := fun h => htail (List.eq_nil_of_length_eq_zero h)
    have hsmall : (str.getD []).length + 1 < 4294967296 := hstr
    by_cases hroom : Room ((str.getD []).length + tail.length)
    · have hlt : (str.getD []).length + tail.length + 1 < 4294967296 := hroom
      unfold strAppend32
      simp only [if_neg hln, hsize, hlo]
      rw [checked_pos hroom, if_neg (by omega), if_neg (by omega), strAppend, if_neg hne,
        List.take_length]
      rfl
    · have hge : ¬ (str.getD []).length + tail.length + 1 < 4294967296 := hroom
      have hover : ((str.getD []).length + tail.length % 4294967296 + 1) % 4294967296 ≤
          (str.getD []).length + tail.length := by
        omega
      unfold strAppend32 checked
      simp only [if_neg hln, hsize, hlo]
      rw [if_neg hroom, if_pos hover]
      split <;> rfl

/-! ## The calls before a request is sent -/

/-- What a call adds to the body. -/
def bodyOf (method : RequestMethod) (step : RequestStep) : List UInt8 :=
  if method = .get then [] else step.body

/-- The request with longer texts. -/
def grown (req : HttpReq32) (header body : List UInt8) : HttpReq32 :=
  { req with header := strAppend req.header header, body := strAppend req.body body }

/-- There is room for the longer texts. -/
def Fits (req : HttpReq32) (header body : List UInt8) : Prop :=
  Room ((req.header.getD []).length + header.length) ∧
    Room ((req.body.getD []).length + body.length)

instance (req : HttpReq32) (header body : List UInt8) : Decidable (Fits req header body) :=
  inferInstanceAs (Decidable (_ ∧ _))

/-- Growing twice is growing once by both. -/
theorem grown_grown (req : HttpReq32) (h b h' b' : List UInt8) :
    grown (grown req h b) h' b' = grown req (h ++ h') (b ++ b') := by
  simp only [grown, strAppend_strAppend]

/-- What fits on top of what has grown fits at once. -/
theorem fits_grown (req : HttpReq32) (h b h' b' : List UInt8) :
    Fits (grown req h b) h' b' ↔ Fits req (h ++ h') (b ++ b') := by
  simp only [Fits, grown, length_strAppend, List.length_append, Nat.add_assoc]

/-- The first part of what fits fits. -/
theorem fits_left {req : HttpReq32} {h b h' b' : List UInt8}
    (hfits : Fits req (h ++ h') (b ++ b')) :
    Fits req h b := by
  obtain ⟨hheader, hbody⟩ := hfits
  simp only [Room, List.length_append] at hheader hbody
  refine ⟨?_, ?_⟩
  · unfold Room
    omega
  · unfold Room
    omega

/-- The methods are told apart by their texts. -/
theorem text_eq_get_iff (method : RequestMethod) : method.text = ascii "GET" ↔ method = .get := by
  cases method <;> decide

/-- **One call** adds its texts, if there is room. -/
theorem run_eq {req : HttpReq32} {method : RequestMethod} (hmethod : req.method = some method.text)
    (hfits : Fits req [] []) (step : RequestStep) (hheader : IsKept step.header)
    (hbody : IsKept (bodyOf method step)) :
    step.run req = checked (Fits req step.header (bodyOf method step))
      (grown req step.header (bodyOf method step)) := by
  have hroom : Room (req.header.getD []).length := hfits.1
  have hroom' : Room (req.body.getD []).length := hfits.2
  cases step with
  | addHeader line =>
    have hnone : bodyOf method (.addHeader line) = [] := ite_self []
    show (strAppend32 req.header (RequestStep.addHeader line).header >>= _) = _
    rw [hnone, strAppend32_of_kept hroom hheader]
    refine checked_bind And.left fun hlong => ?_
    have hboth : Fits req (RequestStep.addHeader line).header [] := ⟨hlong, hroom'⟩
    exact (checked_pos hboth).symm
  | setBody body =>
    have hset : httpClientSetBody32 req body = if method.text ≠ ascii "GET" then
        strAppend32 req.body body >>= fun text => pure (0, { req with body := text })
        else pure (-1, req) := by
      unfold httpClientSetBody32
      rw [hmethod]
      rfl
    show (httpClientSetBody32 req body).map Prod.snd = _
    by_cases hget : method = .get
    · have hnone : bodyOf method (.setBody body) = [] := if_pos hget
      rw [hset, if_neg (not_not.mpr ((text_eq_get_iff method).mpr hget)), hnone]
      exact (checked_pos hfits).symm
    · have hsome : bodyOf method (.setBody body) = body := if_neg hget
      rw [hsome] at hbody
      rw [hset, if_pos (mt (text_eq_get_iff method).mp hget), hsome,
        strAppend32_of_kept hroom' hbody]
      by_cases hlong : Room ((req.body.getD []).length + body.length)
      · have hboth : Fits req (RequestStep.setBody body).header body := ⟨hroom, hlong⟩
        rw [checked_pos hlong]
        exact (checked_pos hboth).symm
      · unfold checked
        rw [if_neg hlong, if_neg fun hfits : Fits req _ body => hlong hfits.2]
        rfl

/-- **The calls** add their texts, if there is room for all of them. -/
theorem foldlM_run_eq {req : HttpReq32} {method : RequestMethod}
    (hmethod : req.method = some method.text) (hfits : Fits req [] []) {steps : List RequestStep}
    (hkept : ∀ step ∈ steps, IsKept step.header ∧ IsKept (bodyOf method step)) :
    steps.foldlM RequestStep.run req =
      checked (Fits req (steps.flatMap RequestStep.header) (steps.flatMap (bodyOf method)))
        (grown req (steps.flatMap RequestStep.header) (steps.flatMap (bodyOf method))) := by
  induction steps generalizing req with
  | nil => exact (checked_pos hfits).symm
  | cons step steps ih =>
    obtain ⟨hstep, hsteps⟩ := List.forall_mem_cons.mp hkept
    rw [List.foldlM_cons, run_eq hmethod hfits step hstep.1 hstep.2]
    simp only [List.flatMap_cons]
    refine checked_bind fits_left fun hfits' => ?_
    have hempty : Fits (grown req step.header (bodyOf method step)) [] [] := by
      rw [fits_grown, List.append_nil, List.append_nil]
      exact hfits'
    have hrest := @ih (grown req step.header (bodyOf method step)) hmethod hempty hsteps
    rw [hrest, grown_grown]
    unfold checked
    simp only [fits_grown]

/-! ## Sending -/

/-- The end of a line. -/
theorem ascii_crlf : ascii "\r\n" = crlf := by decide

/-- A result is handed on. -/
theorem ok_bind {α β : Type} (a : α) (f : α → Except Fault β) : (Except.ok a >>= f) = f a := rfl

/-- A text is appended if the sum of the lengths has room. -/
theorem strAppend32_some {text tail : List UInt8} (htext : Room text.length) (hkept : IsKept tail) :
    strAppend32 (some text) tail =
      checked (Room (text ++ tail).length) (some (text ++ tail)) := by
  rw [@strAppend32_of_kept (some text) htext tail hkept, strAppend_some, List.length_append]
  rfl

/-- A short text that is not empty is copied. -/
theorem strAppend32_none {tail : List UInt8} (hne : tail ≠ []) (hlt : tail.length < 100) :
    strAppend32 none tail = .ok (some tail) := by
  have hnone : Room ((none : Option (List UInt8)).getD []).length := Nat.one_lt_succ_succ _
  rw [strAppend32_of_kept hnone (isKept_of_lt (by omega)), strAppend_none hne]
  refine checked_pos ?_
  unfold Room
  simp only [Option.getD_none, List.length_nil]
  omega

/-- The length of a body, as it is written. -/
def lengthText (body : Option (List UInt8)) : List UInt8 :=
  body.elim [] fun body => ascii "Content-Length:" ++ decimalInt (strlen32 body) ++ ascii "\r\n"

/-- The line of the length fits its array. -/
theorem length_lengthText_lt (body : Option (List UInt8)) : (lengthText body).length < 100 := by
  cases body with
  | none => exact Nat.zero_lt_succ 99
  | some body =>
    have hdigits := length_decimalInt_le (strlen32 body)
    have hname : (ascii "Content-Length:").length = 15 := rfl
    have hend : (ascii "\r\n").length = 2 := rfl
    simp only [lengthText, Option.elim_some, List.length_append, hname, hend]
    omega

/-- The header with the length of the body. -/
theorem lengthHeader_eq {header : Option (List UInt8)} (hroom : Room (header.getD []).length)
    (body : Option (List UInt8)) :
    (body.elim (pure header) fun body => do
      let line ← sprintfInto 100 (ascii "Content-Length:" ++ decimalInt (strlen32 body) ++
        ascii "\r\n")
      strAppend32 header line) =
      checked (Room ((header.getD []).length + (lengthText body).length))
        (strAppend header (lengthText body)) := by
  cases body with
  | none => exact (checked_pos hroom).symm
  | some body =>
    have hlt : (lengthText (some body)).length < 100 := length_lengthText_lt (some body)
    have hline : sprintfInto 100 (ascii "Content-Length:" ++ decimalInt (strlen32 body) ++
        ascii "\r\n") = .ok (lengthText (some body)) := if_pos hlt
    rw [Option.elim_some, hline, ok_bind]
    exact strAppend32_of_kept hroom (isKept_of_lt (by omega))

/-- A text that may be absent is appended. -/
theorem appendElim_eq {text : List UInt8} (htext : Room text.length) {tail : Option (List UInt8)}
    (htail : Room (tail.getD []).length) :
    tail.elim (pure (some text)) (strAppend32 (some text)) =
      checked (Room (text ++ tail.getD []).length) (some (text ++ tail.getD [])) := by
  cases tail with
  | none =>
    rw [Option.getD_none, List.append_nil]
    exact (checked_pos htext).symm
  | some tail =>
    have hlt : tail.length + 1 < 4294967296 := htail
    exact strAppend32_some htext (isKept_of_lt (by omega))

/-- Less has room where more has. -/
theorem room_of_le {n m : ℕ} (h : n ≤ m) (hm : Room m) : Room n := by
  unfold Room at hm ⊢
  omega

/-- **The text that is sent** has all of the request, if there is room. -/
theorem requestText32_eq {req : HttpReq32} {method : RequestMethod} {path ip : List UInt8}
    {port : UInt16} (hmethod : req.method = some method.text) (hpath : req.path = some path)
    (hbody : method = .get → req.body = none) (hfits : Fits req [] []) {line host text : List UInt8}
    (hline : line = method.text ++ ascii " " ++ path ++ ascii " HTTP/1.0\r\n")
    (hhost : host = ascii "Host: " ++ ip ++ ascii ":" ++ decimal port.toNat ++ ascii "\r\n")
    (hlineFits : line.length < 100) (hhostFits : host.length < 100)
    (htext : text = line ++ host ++ (req.header.getD [] ++ lengthText req.body) ++ ascii "\r\n" ++
      req.body.getD []) :
    requestText32 ip port req = checked (Room text.length) text := by
  have hheader : Room (req.header.getD []).length := hfits.1
  have hbodyRoom : Room (req.body.getD []).length := hfits.2
  have hlineRoom : Room line.length := by unfold Room; omega
  have hhostRoom : Room (line ++ host).length := by
    rw [List.length_append]
    unfold Room
    omega
  have hne : line ≠ [] := by
    rw [hline]
    simp [ascii]
  have hsecond : strAppend32 (some line) host = .ok (some (line ++ host)) := by
    rw [strAppend32_some hlineRoom (isKept_of_lt (by omega)), checked_pos hhostRoom]
  have hprint : sprintfInto 100 (method.text ++ ascii " " ++ path ++ ascii " HTTP/1.0\r\n") =
      .ok line := by
    rw [← hline]
    exact if_pos hlineFits
  have hprint' : sprintfInto 100 (ascii "Host: " ++ ip ++ ascii ":" ++ decimal port.toNat ++
      ascii "\r\n") = .ok host := by
    rw [← hhost]
    exact if_pos hhostFits
  unfold requestText32
  rw [hmethod, hpath]
  show (sprintfInto 100 _ >>= _) = _
  rw [hprint, ok_bind, strAppend32_none hne hlineFits, ok_bind, hprint', ok_bind, hsecond,
    ok_bind, lengthHeader_eq hheader]
  -- the texts that are appended from here on may be long
  have hlength : text.length = (line ++ host).length +
      ((req.header.getD []).length + (lengthText req.body).length) + (ascii "\r\n").length +
      (req.body.getD []).length := by
    rw [htext]
    simp only [List.length_append]
  refine checked_bind (room_of_le (by omega)) fun hlong => ?_
  have hlong' : Room ((strAppend req.header (lengthText req.body)).getD []).length := by
    rw [getD_strAppend, List.length_append]
    exact hlong
  rw [appendElim_eq hhostRoom hlong', getD_strAppend]
  refine checked_bind (room_of_le (by simp only [List.length_append] at hlength ⊢; omega))
    fun hhead => ?_
  rw [strAppend32_some hhead (isKept_of_lt (by decide))]
  refine checked_bind (room_of_le (by simp only [List.length_append] at hlength ⊢; omega))
    fun hblank => ?_
  have hpost : (if method.text = ascii "POST" then req.body else none) = req.body := by
    cases method with
    | get => rw [if_neg (by decide), hbody rfl]
    | post => exact if_pos rfl
  rw [hpost, appendElim_eq hblank hbodyRoom, ← htext]
  refine checked_bind id fun hroom => ?_
  have hlen : (strlen32 text).toNat = text.length := by
    rw [toNat_strlen32]
    exact Nat.mod_eq_of_lt (by unfold Room at hroom; omega)
  show Except.ok (text.take (strlen32 text).toNat) = _
  rw [hlen, List.take_length]
  exact (checked_pos hroom).symm

/-! ## Requests -/

variable (r : RequestInput)

/-- The header with the length of a body, as the code writes it. -/
def writtenLength (body : List UInt8) : List (List UInt8) :=
  if body = [] then [] else [ascii "Content-Length:" ++ decimalInt (strlen32 body)]

/-- The text that the code writes. -/
def rawText : List UInt8 :=
  written (r.requestLine :: r.hostLine :: (r.added ++ writtenLength r.body)) ++ crlf ++ r.body

/-- The first line is written first. -/
theorem written_cons (line : List UInt8) (lines : List (List UInt8)) :
    written (line :: lines) = line ++ crlf ++ written lines := List.flatMap_cons

/-- Lines are written one behind the other. -/
theorem written_append (lines lines' : List (List UInt8)) :
    written (lines ++ lines') = written lines ++ written lines' := List.flatMap_append

/-- The headers of the steps are their lines, written. -/
theorem flatMap_header (steps : List RequestStep) :
    steps.flatMap RequestStep.header = written (steps.filterMap RequestStep.line) := by
  induction steps with
  | nil => rfl
  | cons step steps ih =>
    rw [List.flatMap_cons, ih]
    cases step with
    | setBody body => rfl
    | addHeader line =>
      cases line with
      | none => rfl
      | some line => exact (written_cons line _).symm

/-- The bodies of the steps are the body of the request. -/
theorem flatMap_bodyOf : r.steps.flatMap (bodyOf r.method) = r.body := by
  unfold RequestInput.body bodyOf
  by_cases hget : r.method = .get
  · simp [hget]
  · simp only [if_neg hget]

/-- The line of the length is written exactly if there is a body. -/
theorem lengthText_strAppend (body : List UInt8) :
    lengthText (strAppend none body) = written (writtenLength body) := by
  unfold strAppend writtenLength
  by_cases hbody : body = []
  · rw [if_pos (by rw [hbody]; rfl), if_pos hbody]
    rfl
  · rw [if_neg (mt List.eq_nil_of_length_eq_zero hbody), if_neg hbody, written_cons]
    show ascii "Content-Length:" ++ decimalInt (strlen32 body) ++ ascii "\r\n" = _
    rw [ascii_crlf]
    exact (List.append_nil _).symm

/-- The request line as it is written. -/
theorem requestLine_text :
    r.method.text ++ ascii " " ++ r.path ++ ascii " HTTP/1.0\r\n" = r.requestLine ++ crlf := by
  have hversion : ascii " HTTP/1.0\r\n" = ascii " HTTP/1.0" ++ crlf := by decide
  rw [hversion, RequestInput.requestLine, ← List.append_assoc]

/-- The `Host` line as it is written. -/
theorem hostLine_text :
    ascii "Host: " ++ r.ip ++ ascii ":" ++ decimal r.port.toNat ++ ascii "\r\n" =
      r.hostLine ++ crlf := by
  rw [ascii_crlf, RequestInput.hostLine]

/-- The request before any header is added. -/
theorem makeReq_eq : httpClientMakeReq32 r.method.text r.path =
    .ok ⟨some r.method.text, some r.path, none, none⟩ := by
  have hmethod : r.method.text ≠ [] ∧ r.method.text.length < 100 := by
    cases r.method <;> decide
  have hpath : r.path.length < 100 := by
    have hfits := r.requestLine_fits
    simp only [List.length_append] at hfits
    omega
  unfold httpClientMakeReq32
  rw [strAppend32_none hmethod.1 hmethod.2, ok_bind, strAppend32_none r.path_word.1 hpath]
  rfl

/-- **The bytes that are sent**, if no text is left out. -/
theorem sent_of_kept
    (hkept : ∀ step ∈ r.steps, IsKept step.header ∧ IsKept (bodyOf r.method step)) :
    r.sent = checked (Room (rawText r).length) (rawText r) := by
  have hnone : Fits ⟨some r.method.text, some r.path, none, none⟩ [] [] :=
    ⟨Nat.one_lt_succ_succ _, Nat.one_lt_succ_succ _⟩
  have htext : rawText r = (r.requestLine ++ crlf) ++ (r.hostLine ++ crlf) ++
      (written r.added ++ written (writtenLength r.body)) ++ ascii "\r\n" ++ r.body := by
    rw [rawText, written_cons, written_cons, written_append, ascii_crlf]
    simp only [List.append_assoc]
  have hlength := congrArg List.length htext
  simp only [List.length_append] at hlength
  unfold RequestInput.sent
  have hadded : r.steps.flatMap RequestStep.header = written r.added := flatMap_header r.steps
  rw [makeReq_eq, ok_bind, foldlM_run_eq rfl hnone hkept, hadded, flatMap_bodyOf]
  refine checked_bind (fun hroom => ?_) fun hfits => ?_
  · exact ⟨room_of_le (by simp; omega) hroom, room_of_le (by simp; omega) hroom⟩
  · have hfits' := (fits_grown ⟨some r.method.text, some r.path, none, none⟩
      (written r.added) r.body
      [] []).mpr (by simpa using hfits)
    refine requestText32_eq rfl rfl ?_ hfits' (requestLine_text r).symm (hostLine_text r).symm
      (requestLine_text r ▸ r.requestLine_fits) (hostLine_text r ▸ r.hostLine_fits) ?_
    · intro hget
      have hbody : r.body = [] := if_pos hget
      rw [grown, hbody]
      rfl
    · rw [grown, htext, lengthText_strAppend, getD_strAppend, getD_strAppend]
      rfl

end MirrorLink.Analysis
