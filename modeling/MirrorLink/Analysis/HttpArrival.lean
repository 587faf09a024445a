import MirrorLink.Analysis.HttpResult

/-!
# Where the loop of the client stops

The text a response is made of depends on the calls only by the pieces they bring: it is the
first beginning on which the scan stops, or all there is when the connection is closed
(`received_delivers`).
-/

set_option autoImplicit false

namespace MirrorLink.Analysis

open MirrorLink.Library MirrorLink.Program

/-! ## Pieces -/

/-- The text when the loop stops, with the pieces that are still to come.  Nothing if it does
not stop. -/
def stopText (ending : Ending) (data : List UInt8) : List (List UInt8) → Option (List UInt8)
  | [] => if ending = .closed then some data else none
  | piece :: pieces =>
    if stops (cstring (data ++ piece)) = true then some (data ++ piece)
    else stopText ending (data ++ piece) pieces

/-- The answers to a chunk bring its bytes. -/
theorem readBytes_answers (chunk : Chunk) (ending : Ending) :
    readBytes (.selecting true true) (chunk.answers ending) = chunk.bytes := by
  have hreads : ∀ arrivals : List Arrival,
      readBytes .reading (arrivals.map Arrival.answer ++ [ending.answer]) =
        arrivals.flatMap Arrival.bytes := by
    intro arrivals
    induction arrivals with
    | nil => cases ending <;> rfl
    | cons arrival arrivals ih =>
      rw [List.flatMap_cons, ← ih]
      cases arrival <;> rfl
  rw [Chunk.bytes, ← hreads, Chunk.answers]
  generalize chunk.signals = signals
  induction signals with
  | zero => rfl
  | succ signals ih =>
    rw [List.replicate_succ, List.cons_append, readBytes]
    exact ih

/-- **What is received** of chunks that leave the buffer room. -/
theorem received_delivers (chunks : List Chunk) (last : Chunk) (ending : Ending) {rbuf : Buffer}
    {data : List UInt8} (hb : rbuf.Holds data)
    (hlt : (data ++ (chunks.flatMap Chunk.bytes ++ last.bytes)).length < 2 ^ 31) :
    received rbuf data (delivers chunks last ending []) =
      stopText ending data (chunks.map Chunk.bytes ++ [last.bytes]) := by
  induction chunks generalizing rbuf data with
  | nil =>
    rw [List.flatMap_nil, List.nil_append] at hlt
    obtain ⟨b, hread, -⟩ := connReadAll_chunk last ending rbuf data hb hlt
    show received rbuf data [last.answers ending] = stopText ending data [last.bytes]
    rw [received, hread]
    simp only [readBytes_answers, received, stopText]
    cases ending with
    | closed => simp [Ending.code]
    | staysOpen => simp [Ending.code]
  | cons chunk chunks ih =>
    rw [List.flatMap_cons, List.append_assoc, ← List.append_assoc data] at hlt
    have hfirst : (data ++ chunk.bytes).length < 2 ^ 31 := by
      rw [List.length_append] at hlt
      omega
    obtain ⟨b, hread, hholds⟩ := connReadAll_chunk chunk .staysOpen rbuf data hb hfirst
    show received rbuf data (chunk.answers .staysOpen :: delivers chunks last ending []) =
      stopText ending data (chunk.bytes :: (chunks.map Chunk.bytes ++ [last.bytes]))
    have hnext : (if b.len = 0 then b else b.append 1).Holds (data ++ chunk.bytes) := by
      split
      · exact hholds
      · exact hholds.append 1
    rw [received, hread, stopText, ← ih hnext hlt]
    simp only [readBytes_answers, Ending.code]
    simp

/-- A text on which the loop stops is a beginning of what arrives: one that ends the scan, or
all of it. -/
theorem of_stopText {ending : Ending} {data text : List UInt8} {pieces : List (List UInt8)}
    (h : stopText ending data pieces = some text) :
    text <+: data ++ pieces.flatten ∧
      (stops (cstring text) = true ∨ (text = data ++ pieces.flatten ∧ ending = .closed)) := by
  induction pieces generalizing data with
  | nil =>
    rw [stopText] at h
    split_ifs at h with hending
    cases h
    simp [hending]
  | cons piece pieces ih =>
    rw [stopText] at h
    rw [List.flatten_cons, ← List.append_assoc]
    split_ifs at h with hstops
    · cases h
      exact ⟨List.prefix_append _ _, .inl hstops⟩
    · exact ih h

/-- When the connection is closed the loop has stopped. -/
theorem exists_stopText (data : List UInt8) (pieces : List (List UInt8)) :
    ∃ text, stopText .closed data pieces = some text := by
  induction pieces generalizing data with
  | nil => exact ⟨data, rfl⟩
  | cons piece pieces ih =>
    rw [stopText]
    split
    · exact ⟨_, rfl⟩
    · exact ih _

/-- Two texts that stop the scan at the same places are received alike, if the same calls bring
as much of them. -/
theorem stopText_take (ending : Ending) {text text' : List UInt8}
    (hstops : ∀ n, stops (cstring (text.take n)) = stops (cstring (text'.take n)))
    {pieces pieces' : List (List UInt8)}
    (hpace : List.Forall₂ (fun p p' => p.length = p'.length) pieces pieces') {n : ℕ}
    (hn : n ≤ text.length) (hn' : n ≤ text'.length)
    (htext : text.take n ++ pieces.flatten = text)
    (htext' : text'.take n ++ pieces'.flatten = text') :
    ∃ stop : Option ℕ, stopText ending (text.take n) pieces = stop.map text.take ∧
      stopText ending (text'.take n) pieces' = stop.map text'.take := by
  induction hpace generalizing n with
  | nil =>
    rw [stopText, stopText]
    split
    · exact ⟨some n, rfl, rfl⟩
    · exact ⟨none, rfl, rfl⟩
  | @cons piece piece' pieces pieces' hlength _ ih =>
    -- one piece more is a longer beginning of either text
    have hgrow : ∀ {t p : List UInt8} {ps : List (List UInt8)}, n ≤ t.length →
        t.take n ++ (p :: ps).flatten = t →
          t.take n ++ p = t.take (n + p.length) ∧ n + p.length ≤ t.length := by
      intro t p ps hle heq
      rw [List.flatten_cons, ← List.append_assoc] at heq
      have hlen := congrArg List.length heq
      rw [List.length_append, List.length_append, List.length_take_of_le hle] at hlen
      refine ⟨?_, by omega⟩
      have htake : (t.take n ++ p).length = n + p.length := by
        rw [List.length_append, List.length_take_of_le hle]
      conv_rhs => rw [← heq, ← htake, List.take_left]
    obtain ⟨hpiece, hle⟩ := hgrow hn htext
    obtain ⟨hpiece', hle'⟩ := hgrow hn' htext'
    rw [← hlength] at hpiece' hle'
    rw [stopText, stopText, hpiece, hpiece', hstops]
    split
    · exact ⟨some _, rfl, rfl⟩
    · refine ih hle hle' ?_ ?_
      · rw [← hpiece, List.append_assoc]
        exact htext
      · rw [← hpiece', List.append_assoc]
        exact htext'

/-! ## One call for everything -/

/-- A chunk that brings a text, one byte at a time. -/
def byteChunk (text : List UInt8) : Chunk :=
  ⟨0, text.map fun b => .data ⟨[b], List.cons_ne_nil _ _, by simp⟩⟩

/-- A text in chunks of one byte is the text. -/
theorem bytes_byteChunk (text : List UInt8) : (byteChunk text).bytes = text := by
  rw [Chunk.bytes, byteChunk, List.flatMap_map]
  exact List.flatMap_singleton' text

end MirrorLink.Analysis
