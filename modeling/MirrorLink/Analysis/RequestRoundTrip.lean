import MirrorLink.Analysis.RequestReading

/-!
# A request is read as it was made

A request is read as it was made exactly if the length of its body is an `int` and there is room
for its text (`request_round_trip_iff`).  Such a request is sent as in the model without lengths
(`sent_eq_requestText`).
-/

set_option autoImplicit false

namespace MirrorLink.Analysis

open MirrorLink.Library MirrorLink.Program

/-! ## Texts that are left out -/

/-- The call as it is if its text is left out for its length. -/
def keptStep : RequestStep → RequestStep
  | .addHeader line =>
    if (RequestStep.addHeader line).header.length % 4294967296 = 0 then .addHeader none
    else .addHeader line
  | .setBody body => if body.length % 4294967296 = 0 then .setBody [] else .setBody body

/-- The empty text is kept. -/
theorem isKept_nil : IsKept [] := fun _ => rfl

/-- What is kept of a step is kept whole. -/
theorem isKept_keptStep (method : RequestMethod) (step : RequestStep) :
    IsKept (keptStep step).header ∧ IsKept (bodyOf method (keptStep step)) := by
  have hbody : ∀ body : List UInt8, IsKept body → IsKept (bodyOf method (.setBody body)) := by
    intro body hkept
    unfold bodyOf
    split_ifs
    · exact isKept_nil
    · exact hkept
  cases step with
  | addHeader line =>
    have hnone : ∀ line, bodyOf method (.addHeader line) = [] := fun _ => ite_self []
    rw [keptStep]
    split_ifs with hdropped
    · rw [hnone]
      exact ⟨isKept_nil, isKept_nil⟩
    · rw [hnone]
      exact ⟨fun hmod => absurd hmod hdropped, isKept_nil⟩
  | setBody body =>
    rw [keptStep]
    split_ifs with hdropped
    · exact ⟨isKept_nil, hbody _ isKept_nil⟩
    · exact ⟨isKept_nil, hbody _ fun hmod => absurd hmod hdropped⟩

/-- A text that is left out makes no difference. -/
theorem run_keptStep (req : HttpReq32) (step : RequestStep) :
    (keptStep step).run req = step.run req := by
  cases step with
  | addHeader line =>
    rw [keptStep]
    split_ifs with hdropped
    · show (strAppend32 req.header [] >>= _) = (strAppend32 req.header _ >>= _)
      rw [strAppend32_of_dropped _ hdropped, strAppend32_of_dropped _ (by rfl)]
    · rfl
  | setBody body =>
    rw [keptStep]
    split_ifs with hdropped
    · show (httpClientSetBody32 req []).map Prod.snd = (httpClientSetBody32 req body).map Prod.snd
      unfold httpClientSetBody32
      rw [strAppend32_of_dropped _ hdropped, strAppend32_of_dropped _ (by rfl)]
    · rfl

/-- The line that is kept of a step is its line. -/
theorem line_keptStep {step : RequestStep} {line : List UInt8} (h : line ∈ (keptStep step).line) :
    line ∈ step.line := by
  cases step with
  | addHeader line' =>
    rw [keptStep] at h
    split_ifs at h
    · cases h
    · exact h
  | setBody body =>
    rw [keptStep] at h
    split_ifs at h <;> cases h

/-- The request without the texts that are left out. -/
def keptRequest (r : RequestInput) : RequestInput :=
  { r with
    steps := r.steps.map keptStep
    header_lines := by
      intro step hstep line hline
      obtain ⟨step', hstep', rfl⟩ := List.mem_map.mp hstep
      exact r.header_lines step' hstep' line (line_keptStep hline) }

/-- What is kept of a request is all that is sent. -/
theorem sent_keptRequest (r : RequestInput) : (keptRequest r).sent = r.sent := by
  have hrun : ∀ (steps : List RequestStep) (req : HttpReq32),
      (steps.map keptStep).foldlM RequestStep.run req = steps.foldlM RequestStep.run req := by
    intro steps req
    rw [List.foldlM_map]
    congr 1
    funext req step
    exact run_keptStep req step
  unfold RequestInput.sent
  show (httpClientMakeReq32 r.method.text r.path >>= fun req =>
    (r.steps.map keptStep).foldlM RequestStep.run req >>= requestText32 r.ip r.port) = _
  simp only [hrun]

/-! ## Round trips -/

/-- The bytes that are sent are read as the request they were made of. -/
def SentAsMade (r : RequestInput) : Prop :=
  ∃ text p, r.sent = .ok text ∧ parseRequest text = some p ∧ r.ReadAs p

section RoundTrip

variable (r : RequestInput)

/-- The length that the code writes is that of the body, if it is an `int`. -/
theorem rawText_eq (hbody : r.body.length < 2147483648) : rawText r = r.text := by
  have hlength : (strlen32 r.body).toNat = r.body.length := by
    rw [toNat_strlen32]
    exact Nat.mod_eq_of_lt (by omega)
  have hshort : r.body.length < 2 ^ 31 := hbody
  have hnumber : decimalInt (strlen32 r.body) = decimal r.body.length := by
    rw [decimalInt, hlength, if_pos hshort]
  have hlines : writtenLength r.body = r.lengthLines := by
    rw [writtenLength, RequestInput.lengthLines, hnumber]
  rw [rawText, RequestInput.text, hlines]

/-- The body is part of the request. -/
theorem length_body_le : r.body.length ≤ (rawText r).length := by
  rw [rawText, List.length_append]
  exact Nat.le_add_left _ _

/-- A part is no longer than all parts. -/
theorem length_flatMap_ge {α β : Type} (f : α → List β) {l : List α} {a : α} (h : a ∈ l) :
    (f a).length ≤ (l.flatMap f).length := by
  obtain ⟨before, after, rfl⟩ := List.append_of_mem h
  rw [List.flatMap_append, List.flatMap_cons, List.length_append, List.length_append]
  omega

/-- No text is left out of a request for which there is room. -/
theorem isKept_of_room (hroom : Room (rawText r).length) :
    ∀ step ∈ r.steps, IsKept step.header ∧ IsKept (bodyOf r.method step) := by
  intro step hstep
  have hheader := length_flatMap_ge RequestStep.header hstep
  have hbody := length_flatMap_ge (bodyOf r.method) hstep
  rw [flatMap_header] at hheader
  rw [flatMap_bodyOf] at hbody
  have hle := length_body_le r
  have hlines : (written r.added).length ≤ (rawText r).length := by
    rw [rawText, written_cons, written_cons, written_append]
    simp only [List.length_append]
    omega
  unfold Room at hroom
  exact ⟨isKept_of_lt (Nat.lt_of_le_of_lt (hheader.trans hlines) (by omega)),
    isKept_of_lt (by omega)⟩

/-- A request that is sent as it is made is short. -/
theorem of_sentAsMade (h : SentAsMade r) :
    r.body.length < 2147483648 ∧ r.text.length < 4294967295 := by
  obtain ⟨text, p, hsent, hparse, hread⟩ := h
  -- the texts that are left out are not read, so there are none
  have hkept : ∀ step ∈ (keptRequest r).steps,
      IsKept step.header ∧ IsKept (bodyOf (keptRequest r).method step) := by
    intro step hstep
    obtain ⟨step', -, rfl⟩ := List.mem_map.mp hstep
    exact isKept_keptStep r.method step'
  rw [← sent_keptRequest, sent_of_kept (keptRequest r) hkept] at hsent
  obtain ⟨hroom, rfl⟩ := checked_eq_ok hsent
  have hlt : (rawText (keptRequest r)).length + 1 < 4294967296 := hroom
  have hle := length_body_le (keptRequest r)
  rw [parseRequest_rawText (keptRequest r) (by omega)] at hparse
  split_ifs at hparse with hshort
  cases hparse
  have hbody : (keptRequest r).body = r.body := hread.body
  have hadded : (keptRequest r).added = r.added :=
    (filter_headers (keptRequest r)).2.symm.trans hread.added
  have hraw : rawText (keptRequest r) = rawText r := by
    rw [rawText, rawText, hbody, hadded]
    rfl
  rw [hbody] at hshort
  rw [hraw, rawText_eq r hshort] at hlt
  exact ⟨hshort, by omega⟩

/-- There is room for a text that is short enough. -/
theorem room_of_short (hbody : r.body.length < 2147483648) (htext : r.text.length < 4294967295) :
    Room (rawText r).length := by
  rw [rawText_eq r hbody]
  unfold Room
  omega

/-- **And a short request is sent as it is made.** -/
theorem sentAsMade_of_short (hbody : r.body.length < 2147483648)
    (htext : r.text.length < 4294967295) : SentAsMade r := by
  have hroom := room_of_short r hbody htext
  have hlt : r.body.length < 4294967296 := by omega
  refine ⟨rawText r, _, ?_, ?_, readAs_self r⟩
  · rw [sent_of_kept r (isKept_of_room r hroom), checked_pos hroom]
  · rw [parseRequest_rawText r hlt, if_pos hbody]

/-- **Requests are read as they were made** exactly if the length of the body is an `int` and
there is memory for the text. -/
theorem request_round_trip_iff :
    SentAsMade r ↔ r.body.length < 2147483648 ∧ r.text.length < 4294967295 :=
  ⟨of_sentAsMade r, fun h => sentAsMade_of_short r h.1 h.2⟩

/-! ## The model without lengths -/

end RoundTrip

/-- A request with a body of 2^31 bytes. -/
def longRequest : RequestInput where
  method := .post
  path := ascii "/c"
  ip := ascii "10.0.0.5"
  port := 80
  steps := [.setBody (List.replicate 2147483648 65)]
  path_word := by decide +kernel
  path_no_zero := by decide +kernel
  ip_word := by decide +kernel
  ip_no_zero := by decide +kernel
  header_lines := by
    intro step hstep line hline
    rw [List.mem_singleton.mp hstep] at hline
    cases hline
  requestLine_fits := by decide +kernel
  hostLine_fits := by decide +kernel

/-- The length of that body is written as a negative number. -/
theorem request_round_trip_fails : ¬ SentAsMade longRequest := by
  intro h
  have hpost : longRequest.method ≠ .get := by decide
  have hlength : longRequest.body.length = 2147483648 := by
    rw [RequestInput.body, if_neg hpost]
    show ([RequestStep.setBody (List.replicate 2147483648 65)].flatMap RequestStep.body).length = _
    rw [List.flatMap_singleton, RequestStep.body, List.length_replicate]
  have hshort := (of_sentAsMade longRequest h).1
  omega

end MirrorLink.Analysis
