import MirrorLink.Analysis.HttpReassembly
import MirrorLink.Analysis.TransferRule

/-!
# What `conn_read_all` accumulates

The zero behind the bytes that have come is never written.  It is there because every
allocation is zeroed, and because a read changes no byte behind those it delivers: the buffer
`Holds` everything that has come so far, before each read with room for 1024 bytes more
(`Roomy`).  `accumulates` says so for any number of calls on one buffer.
-/

set_option autoImplicit false

namespace MirrorLink.Analysis

open MirrorLink.Library MirrorLink.Program

/-! ## One call -/

/-- What has come so far, behind what was there before the call. -/
def accumulated (data : List UInt8) (h : History) : List UInt8 := data ++ h.flatMap bytesRead

/-- The buffer holds it, as long as it is shorter than 2^31 bytes. -/
def Accumulates (data : List UInt8) (h : History) (b : Buffer) : Prop :=
  (accumulated data h).length < 2 ^ 31 → b.Holds (accumulated data h)

/-- The buffer holds it and has room for a read. -/
def Roomy (data : List UInt8) (h : History) (b : Buffer) : Prop :=
  (accumulated data h).length < 2 ^ 31 →
    b.Holds (accumulated data h) ∧ b.len + 1024 ≤ b.size

def ReadAllReturns (data : List UInt8) (h : History) (result : Result Buffer) : Prop :=
  (accumulated data h).length < 2 ^ 31 →
    ∃ code b, result = .ok (code, b) ∧ b.Holds (accumulated data h)

/-- What has come in is what came in before and what came in since. -/
theorem accumulated_append (data : List UInt8) (h h' : History) :
    accumulated data (h ++ h') = accumulated data h ++ h'.flatMap bytesRead := by
  unfold accumulated
  rw [List.flatMap_append, List.append_assoc]

/-- One more answer brings the bytes it was read with. -/
theorem accumulated_snoc (data : List UInt8) (h : History) {e : SysCall × SysAnswer}
    {bytes : List UInt8} (he : bytesRead e = bytes) :
    accumulated data (h ++ [e]) = accumulated data h ++ bytes := by
  rw [accumulated_append, List.flatMap_singleton, he]

/-- An answer without bytes brings nothing. -/
theorem accumulated_append_nil (data : List UInt8) (h : History) {e : SysCall × SysAnswer}
    (he : bytesRead e = []) : accumulated data (h ++ [e]) = accumulated data h := by
  rw [accumulated_snoc data h he, List.append_nil]

/-- After growing by 1024 bytes the buffer has room for a read. -/
theorem Accumulates.append_1024 {data : List UInt8} {h : History} {b : Buffer}
    (hb : Accumulates data h b) : Roomy data h (b.append 1024) := by
  intro hlt
  have hholds := hb hlt
  have hlen := hholds.len
  have hroom := Buffer.size_append b 1024 (by omega)
  refine ⟨hholds.append 1024, ?_⟩
  rw [Buffer.len_append]
  exact hroom

/-- A call that returns without reading leaves what has come in. -/
theorem Roomy.returns {data : List UInt8} {h : History} {b : Buffer} (hb : Roomy data h b)
    {e : SysCall × SysAnswer} (he : bytesRead e = []) (code : ℤ) :
    ReadAllReturns data (h ++ [e]) (.ok (code, b)) := by
  unfold ReadAllReturns
  rw [accumulated_append_nil data h he]
  intro hlt
  exact ⟨code, b, rfl, (hb hlt).1⟩

/-- There is room for what a `read` brings. -/
theorem Roomy.fill {data bytes : List UInt8} {h : History} {b : Buffer} (hb : Roomy data h b)
    (hle : bytes.length ≤ 1024) (hlt : (accumulated data h ++ bytes).length < 2 ^ 31) :
    ∃ b', b.fill bytes = some b' ∧ b'.Holds (accumulated data h ++ bytes) := by
  rw [List.length_append] at hlt
  -- what has come before is shorter still
  obtain ⟨hholds, hroom⟩ := hb (by omega)
  have hlen := hholds.len
  exact hholds.fill (by omega)

/-- What is read fits, and the buffer grows for the next read. -/
theorem Roomy.again {data bytes : List UInt8} {h : History} {b b' : Buffer} (hb : Roomy data h b)
    (hle : bytes.length ≤ 1024) (hfilled : b.fill bytes = some b') {e : SysCall × SysAnswer}
    (he : bytesRead e = bytes) : Roomy data (h ++ [e]) (b'.append 1024) := by
  apply Accumulates.append_1024
  unfold Accumulates
  rw [accumulated_snoc data h he]
  intro hlt
  obtain ⟨b'', hb'', hholds⟩ := hb.fill hle hlt
  rw [hfilled] at hb''
  cases hb''
  exact hholds

/-- Nothing is read outside the array. -/
theorem Roomy.not_full {data bytes : List UInt8} {h : History} {b : Buffer} (hb : Roomy data h b)
    (hle : bytes.length ≤ 1024) (hfilled : b.fill bytes = none) {e : SysCall × SysAnswer}
    (he : bytesRead e = bytes) (result : Result Buffer) :
    ReadAllReturns data (h ++ [e]) result := by
  unfold ReadAllReturns
  rw [accumulated_snoc data h he]
  intro hlt
  obtain ⟨b', hb', -⟩ := hb.fill hle hlt
  rw [hfilled] at hb'
  cases hb'

/-- **The loop of `conn_read_all`.** -/
theorem readAllRule (fd : ℤ) (data : List UInt8) :
    TransferRule readAllTransfer fd (Accumulates data) (Roomy data) (ReadAllReturns data) where
  asks h s selected left b hb := by
    unfold Accumulates
    rw [accumulated_append_nil data h rfl]
    exact hb
  prepares h b hb := hb.append_1024
  answers h b answer hallows hb := by
    cases answer with
    | data piece =>
      show Goes _ _ _ _ (readAllAnswered b (.data piece))
      cases hfilled : b.fill piece.bytes with
      | some b' =>
        rw [readAllAnswered_of_fill hfilled]
        exact hb.again hallows hfilled rfl
      | none =>
        rw [readAllAnswered_of_no_room hfilled]
        exact hb.not_full hallows hfilled rfl _
    | endOfFile => exact hb.returns rfl (-3)
    | failed errno =>
      cases errno with
      | again => exact hb.returns rfl 0
      | intr =>
        show Roomy data _ b
        unfold Roomy
        rw [accumulated_append_nil data h rfl]
        exact hb
      | _ =>
        show Accumulates data _ b
        unfold Accumulates
        rw [accumulated_append_nil data h rfl]
        intro hlt
        exact (hb hlt).1
    | _ => exact hallows.elim
  ends h b hb hmore := by cases hmore
  breaks h b code hb hcode := fun hlt => ⟨code, b, rfl, hb hlt⟩

/-! ## The calls of the HTTP client -/

/-- The set with a descriptor in it or not. -/
def flagged (fd : ℤ) (isIn : Bool) : FdSet := if isIn then {fd} else ∅

/-- An answer to `conn_read_all`, as the system gives it. -/
def sysAnswer (fd : ℤ) : Answer → SysAnswer
  | .select (.ready readable exceptional) =>
    .select (.ready (flagged fd readable) ∅ (flagged fd exceptional)) ⟨0, 0⟩
  | .select .interrupted => .select (.failed .intr) ⟨0, 0⟩
  | .select .failed => .select (.failed (.other 0)) ⟨0, 0⟩
  | .read (.data piece) =>
    .data ⟨piece.bytes, piece.ne_nil, Nat.le_trans piece.length_le (by omega)⟩
  | .read .endOfFile => .endOfFile
  | .read .wouldBlock => .failed .again
  | .read .interrupted => .failed .intr
  | .read .failed => .failed (.other 0)

/-- Where a phase is in the loop. -/
def phasePoint (fd : ℤ) (b : Buffer) : ConnPhase → Point (Waits Buffer) (Result Buffer)
  | .selecting readable exceptional =>
    .waiting (.inSelect ⟨flagged fd readable, flagged fd exceptional, none, b⟩)
  | .reading => .waiting (.inTransfer 0 ⟨flagged fd true, flagged fd false, none, b⟩)

/-- What `conn_read_all` does with the sets that `select` leaves. -/
theorem selected_flagged (fd : ℤ) (b : Buffer) (inRfds inEfds readable exceptional : Bool) :
    readAllTransfer.selected fd ⟨flagged fd inRfds, flagged fd inEfds, none, b⟩
        (.ready (flagged fd readable) ∅ (flagged fd exceptional)) =
      if !(inRfds && readable) && !(inEfds && exceptional) then .returned (.ok (-2, b))
      else if inEfds && exceptional then .returned (.ok (-1, b))
      else phasePoint fd (b.append 1024) .reading := by
  cases inRfds <;> cases readable <;> cases inEfds <;> cases exceptional <;>
    simp [Transfer.selected, Transfer.forLoop, readAllTransfer, flagged, phasePoint]

/-- A phase goes on in the loop, with the rest of the answers. -/
theorem after_cons (fd : ℤ) {b : Buffer} {phase : ConnPhase} {w : Waits Buffer} {answer : Answer}
    {answers : List Answer} {result : Result Buffer} (hphase : phasePoint fd b phase = .waiting w)
    (hallows : (readAllTransfer.waitsFor fd w).Allows (sysAnswer fd answer))
    {p : Point (Waits Buffer) (Result Buffer)}
    (hstep : readAllTransfer.step fd w (sysAnswer fd answer) = p)
    (hrest : readAllTransfer.Permitted fd p (answers.map (sysAnswer fd)) ∧
      readAllTransfer.after fd p (answers.map (sysAnswer fd)) = .returned result) :
    readAllTransfer.Permitted fd (phasePoint fd b phase) ((answer :: answers).map (sysAnswer fd)) ∧
      readAllTransfer.after fd (phasePoint fd b phase) ((answer :: answers).map (sysAnswer fd)) =
        .returned result := by
  subst hstep
  rw [hphase]
  exact ⟨⟨hallows, hrest.1⟩, hrest.2⟩

/-- A call that has returned asks for nothing more. -/
theorem after_returned (fd : ℤ) (answers : List SysAnswer) (result : Result Buffer) :
    readAllTransfer.Permitted fd (.returned result) answers ∧
      readAllTransfer.after fd (.returned result) answers = .returned result :=
  ⟨allAllowed_returned _ _ _ _ _, goOn_returned _ _ _⟩

/-- **The reads of a response** are runs of the loop. -/
theorem after_of_connReadAll (fd : ℤ) {phase : ConnPhase} {b b' : Buffer} {answers : List Answer}
    {code : ℤ} (h : connReadAll phase b answers = some (code, b')) :
    readAllTransfer.Permitted fd (phasePoint fd b phase) (answers.map (sysAnswer fd)) ∧
      readAllTransfer.after fd (phasePoint fd b phase) (answers.map (sysAnswer fd)) =
        .returned (.ok (code, b')) := by
  induction answers generalizing phase b with
  | nil => cases phase <;> cases h
  | cons answer answers ih =>
    cases phase with
    | selecting inRfds inEfds =>
      cases answer with
      | read answer => cases h
      | select answer =>
        cases answer with
        | ready readable exceptional =>
          refine after_cons fd rfl trivial (selected_flagged fd b inRfds inEfds _ _) ?_
          rw [connReadAll] at h
          split_ifs at h ⊢
          · cases h
            exact after_returned fd _ _
          · cases h
            exact after_returned fd _ _
          · exact ih h
        | interrupted => exact after_cons fd rfl trivial rfl (ih h)
        | failed =>
          cases h
          exact after_cons fd rfl trivial rfl (after_returned fd _ _)
    | reading =>
      cases answer with
      | select answer => cases h
      | read answer =>
        cases answer with
        | data piece =>
          rw [connReadAll] at h
          cases hfill : b.fill piece.bytes with
          | none =>
            rw [hfill] at h
            cases h
          | some filled =>
            rw [hfill] at h
            have hanswered : readAllTransfer.answered b (sysAnswer fd (.read (.data piece)))
                = .again (filled.append 1024) := readAllAnswered_of_fill hfill
            refine after_cons fd rfl piece.length_le ?_ (ih h)
            rw [Transfer.step_inTransfer, hanswered]
            rfl
        | endOfFile =>
          cases h
          exact after_cons fd rfl trivial rfl (after_returned fd _ _)
        | wouldBlock =>
          cases h
          exact after_cons fd rfl trivial rfl (after_returned fd _ _)
        | interrupted => exact after_cons fd rfl trivial rfl (ih h)
        | failed => exact after_cons fd rfl trivial rfl (ih h)

/-! ## Any number of calls -/

/-- A buffer that has been made by `buffer_init` and used by `conn_read_all` and by
`buffer_append(buf, 1)`, with what has been read into it. -/
inductive Built : Buffer → List UInt8 → Prop where
  | init (size : UInt32) : Built (Buffer.init size.toNat) []
  | readAll {b b' : Buffer} {data : List UInt8} {fd code : ℤ} {answers : List SysAnswer}
    (built : Built b data)
    (permitted : readAllTransfer.Permitted fd (connReadAllFrom fd b) answers)
    (returned : readAllTransfer.after fd (connReadAllFrom fd b) answers
      = .returned (.ok (code, b'))) :
    Built b' (accumulated data (readAllTransfer.history fd (connReadAllFrom fd b) answers))
  | append {b : Buffer} {data : List UInt8} (built : Built b data) : Built (b.append 1) data

/-- At the start the buffer holds what it was given. -/
theorem accumulates_start {data : List UInt8} {b : Buffer} (fd : ℤ)
    (hb : data.length < 2 ^ 31 → b.Holds data) :
    Stands (Accumulates data) (Roomy data) (ReadAllReturns data) [] (connReadAllFrom fd b) := by
  apply (readAllRule fd data).whileLoop
  show (data ++ []).length < 2 ^ 31 → b.Holds (data ++ [])
  rwa [List.append_nil]

/-- A buffer built by earlier calls holds what they read, as long as its length is an `int`. -/
theorem Built.holds {b : Buffer} {data : List UInt8} (hb : Built b data)
    (hlt : data.length < 2 ^ 31) : b.Holds data := by
  induction hb with
  | init size => exact Buffer.holds_init _
  | readAll built permitted returned ih =>
    obtain ⟨code, b', hresult, hholds⟩ := (readAllRule _ _).run_returned
      (accumulates_start _ ih) permitted returned hlt
    cases hresult
    exact hholds
  | append built ih => exact (ih hlt).append 1

/-- The read that is waited for fits into the buffer. -/
def ReadFits (fd : ℤ) : Point (Waits Buffer) (Result Buffer) → Prop
  | .waiting (.inTransfer turns s) => ∃ offset count,
      readAllTransfer.waitsFor fd (.inTransfer turns s) = .read fd offset count ∧
        offset + count ≤ s.data.size
  | _ => True

/-- What the buffer is when everything that has come is `text`: it begins with it, there are
zeros behind it, and a zero byte follows it once there is room for one. -/
structure TextIn (b : Buffer) (text : List UInt8) : Prop where
  contents : b.buf.take b.len = text
  zeros : ∀ i, b.len ≤ i → i < b.size → b.buf[i]? = some 0
  terminated : (b.append 1).buf[b.len]? = some 0
  scanned : cstring (b.append 1).buf = cstring text

/-- Behind what the buffer holds there are zeros. -/
theorem holds_getElem? {b : Buffer} {text : List UInt8} (hb : b.Holds text) {i : ℕ}
    (hle : b.len ≤ i) (hlt : i < b.size) : b.buf[i]? = some 0 := by
  obtain ⟨k, hbuf⟩ := hb.zeros
  have hlen := hb.len
  have hk : i - text.length < k := by
    unfold Buffer.size at hlt
    rw [hbuf, List.length_append, List.length_replicate] at hlt
    omega
  rw [hbuf, List.getElem?_append_right (by omega), List.getElem?_replicate, if_pos hk]

/-- A buffer that holds a text has it as a string. -/
theorem textIn_of_holds {b : Buffer} {text : List UInt8} (hb : b.Holds text)
    (hlt : text.length < 2 ^ 31) : TextIn b text := by
  have hlen := hb.len
  have hroom := Buffer.size_append b 1 (by omega)
  have happend := hb.append 1
  refine ⟨hb.take, fun i => holds_getElem? hb, holds_getElem? happend ?_ hroom, ?_⟩
  · rw [Buffer.len_append]
  · obtain ⟨k, hbuf⟩ := happend.zeros
    have hk : 0 < k := by
      unfold Buffer.size at hroom
      rw [hbuf, List.length_append, List.length_replicate] at hroom
      omega
    rw [hbuf]
    by_cases hzero : (0 : UInt8) ∈ text
    · exact cstring_append_of_mem hzero _
    · rw [cstring_append_zeros _ _ hzero, cstring_eq_self hzero]

/-- **Accumulation.**  A call of `conn_read_all` on a buffer with everything that has come
before reads within the buffer at every point, and when it returns, with whatever code, the
buffer begins with all that has come and is zeroed behind it. -/
theorem accumulates {b : Buffer} {data : List UInt8} (hb : Built b data) (fd : ℤ)
    (answers : List SysAnswer)
    (hpermitted : readAllTransfer.Permitted fd (connReadAllFrom fd b) answers)
    (hlt : (accumulated data
      (readAllTransfer.history fd (connReadAllFrom fd b) answers)).length < 2 ^ 31) :
    (∀ before, before <+: answers →
      ReadFits fd (readAllTransfer.after fd (connReadAllFrom fd b) before)) ∧
    ∀ result, readAllTransfer.after fd (connReadAllFrom fd b) answers = .returned result →
      ∃ code b', result = .ok (code, b') ∧
        TextIn b' (accumulated data
          (readAllTransfer.history fd (connReadAllFrom fd b) answers)) := by
  have hstart := accumulates_start fd hb.holds
  constructor
  · rintro before ⟨later, rfl⟩
    have hstands := (readAllRule fd data).run hstart (allAllowed_append _ _ hpermitted)
    have hbefore : (accumulated data
        (readAllTransfer.history fd (connReadAllFrom fd b) before)).length < 2 ^ 31 := by
      rw [Transfer.history, exchanges_append, accumulated_append, List.length_append] at hlt
      exact Nat.lt_of_le_of_lt (Nat.le_add_right _ _) hlt
    revert hstands
    cases readAllTransfer.after fd (connReadAllFrom fd b) before with
    | returned result => exact fun _ => trivial
    | waiting w =>
      cases w with
      | inSelect s => exact fun _ => trivial
      | inTransfer turns s => exact fun hroomy => ⟨_, _, rfl, (hroomy hbefore).2⟩
  · intro result hreturned
    obtain ⟨code, b', rfl, hholds⟩ := (readAllRule fd data).run_returned hstart hpermitted
      hreturned hlt
    exact ⟨code, b', rfl, textIn_of_holds hholds hlt⟩

/-- The bytes an answer brings. -/
def broughtBy : SysAnswer → List UInt8
  | .data piece => piece.bytes
  | _ => []

/-- No more has come than the answers bring. -/
theorem length_accumulated_le (data : List UInt8) (fd : ℤ) (b : Buffer)
    (answers : List SysAnswer) :
    (accumulated data (readAllTransfer.history fd (connReadAllFrom fd b) answers)).length ≤
      data.length + (answers.flatMap broughtBy).length := by
  have hread : ∀ h : History, (h.flatMap bytesRead).length ≤
      ((h.map Prod.snd).flatMap broughtBy).length := by
    intro h
    induction h with
    | nil => exact le_rfl
    | cons e h ih =>
      have hone : (bytesRead e).length ≤ (broughtBy e.2).length := by
        obtain ⟨call, answer⟩ := e
        unfold bytesRead
        split
        · rename_i heq
          cases heq
          exact le_rfl
        · exact Nat.zero_le _
      rw [List.flatMap_cons, List.map_cons, List.flatMap_cons, List.length_append,
        List.length_append]
      omega
  obtain ⟨later, hlater⟩ : (readAllTransfer.history fd (connReadAllFrom fd b) answers).map
      Prod.snd <+: answers := map_snd_exchanges_prefix _ _ _ answers
  have hle := hread (readAllTransfer.history fd (connReadAllFrom fd b) answers)
  have htotal := congrArg (fun as => (as.flatMap broughtBy).length) hlater
  simp only [List.flatMap_append, List.length_append] at htotal
  unfold accumulated
  rw [List.length_append]
  omega

/-- A call that is interrupted in `select` and in `read` before anything comes. -/
def interruptedCall : Chunk := chunkOf (ascii "HTTP/1.1 2")

/-- A call that is interrupted twice and gets its text in two pieces. -/
theorem accumulates_in_interrupted_call :
    ∃ code b', readAllTransfer.after 5 (connReadAllFrom 5 (Buffer.init 0))
        ((interruptedCall.answers .staysOpen).map (sysAnswer 5)) = .returned (.ok (code, b')) ∧
      TextIn b' (ascii "HTTP/1.1 2") := by
  obtain ⟨b', hread, hholds⟩ := connReadAll_chunk interruptedCall .staysOpen (Buffer.init 0) []
    (Buffer.holds_init 0) (by decide)
  obtain ⟨hpermitted, hreturned⟩ := after_of_connReadAll 5 hread
  have hshort := Nat.lt_of_le_of_lt (length_accumulated_le [] 5 (Buffer.init 0)
    ((interruptedCall.answers .staysOpen).map (sysAnswer 5))) (show 10 < 2 ^ 31 by omega)
  obtain ⟨code, b'', hresult, htext⟩ :=
    (accumulates (Built.init 0) 5 _ hpermitted hshort).2 _ hreturned
  cases hresult
  refine ⟨_, _, hreturned, ?_⟩
  rw [← htext.contents, hholds.take] at htext
  exact htext

end MirrorLink.Analysis
