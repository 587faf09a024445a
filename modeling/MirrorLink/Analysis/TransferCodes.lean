import MirrorLink.Analysis.ExactTransfer

/-!
# What the codes of the transfers say

`conn_read` and `conn_write` have no other descriptor in their sets than their own, and go no
further when it is flagged as exceptional.  So the loop over the result of `select` has one turn
for a transfer, and after it the condition of `while` is looked at (`Orderly`).  Something is
missing wherever they wait, and what they return is 0 exactly if nothing is (`transfer_codes`):
a transfer that is complete is never reported as a failure.
-/

set_option autoImplicit false

namespace MirrorLink.Analysis

open MirrorLink.Library MirrorLink.Program

section Loop

variable {τ : Type} {f : Transfer τ} {fd : ℤ}

/-- The sets hold no other descriptor. -/
def OnlyOwn (fd : ℤ) (s : Loop τ) : Prop := s.fds ⊆ {fd} ∧ s.efds ⊆ {fd}

/-- While the function waits something is missing and no other turn is to come; when it has
returned, its code says whether something is. -/
def Orderly (f : Transfer τ) (fd : ℤ) : Point (Waits τ) (Result τ) → Prop
  | .waiting (.inSelect s) => OnlyOwn fd s ∧ f.more s.data = true
  | .waiting (.inTransfer turns s) => turns = 0 ∧ OnlyOwn fd s ∧ f.more s.data = true
  | .returned (.ok (code, data)) => code = 0 ↔ f.more data = false
  | .returned (.error _) => True

/-- What is to be known of a function for that. -/
structure OrderlyRule (f : Transfer τ) : Prop where
  prepares : ∀ data, f.more data = true → f.more (f.prepare data) = true
  again : ∀ data answer data', f.more data = true → f.answered data answer = .again data' →
    f.more data' = true
  returns : ∀ data answer code data', f.more data = true →
    f.answered data answer = .returns (.ok (code, data')) → (code = 0 ↔ f.more data' = false)

/-- The loop of a read begins in order. -/
theorem orderly_whileLoop {s : Loop τ} (hs : OnlyOwn fd s) : Orderly f fd (f.whileLoop s) := by
  unfold Transfer.whileLoop
  by_cases hmore : f.more s.data = true
  · rw [if_pos hmore]
    exact ⟨hs, hmore⟩
  · rw [if_neg hmore]
    exact ⟨fun _ => Bool.eq_false_iff.mpr hmore, fun _ => rfl⟩

/-- `select` has flagged one descriptor or two: if two, one of them as exceptional. -/
theorem orderly_forLoop (rule : OrderlyRule f) {s : Loop τ} (hs : OnlyOwn fd s)
    (hmore : f.more s.data = true) (hret : s.fds.card + s.efds.card ≠ 0) :
    Orderly f fd (f.forLoop fd (s.fds.card + s.efds.card) s) := by
  obtain ⟨hfds, hefds⟩ := hs
  obtain ⟨turns, hturns⟩ := Nat.exists_eq_succ_of_ne_zero hret
  rw [hturns, Transfer.forLoop]
  by_cases hexcept : fd ∈ s.efds
  · rw [if_pos hexcept]
    simp [Orderly, hmore]
  · -- nothing is exceptional, so that the socket is what is flagged
    have hempty : s.efds = ∅ := by
      rw [Finset.subset_singleton_iff] at hefds
      refine hefds.resolve_right ?_
      rintro heq
      exact hexcept (heq ▸ Finset.mem_singleton_self fd)
    have hready : s.fds = {fd} := by
      rw [Finset.subset_singleton_iff] at hfds
      refine hfds.resolve_left ?_
      intro hnone
      rw [hnone, hempty] at hret
      exact hret rfl
    have hzero : turns = 0 := by
      rw [hready, hempty, Finset.card_singleton, Finset.card_empty] at hturns
      omega
    rw [if_neg hexcept, if_pos (hready ▸ Finset.mem_singleton_self fd)]
    exact ⟨hzero, ⟨hfds, hefds⟩, rule.prepares _ hmore⟩

/-- What `select` leaves is dealt with in order. -/
theorem orderly_selected (rule : OrderlyRule f) {s : Loop τ} (hs : OnlyOwn fd s)
    (hmore : f.more s.data = true) (answer : Selected) :
    Orderly f fd (f.selected fd s answer) := by
  cases answer with
  | failed errno =>
    rw [Transfer.selected]
    by_cases hintr : errno = .intr
    · rw [if_pos hintr]
      exact orderly_whileLoop hs
    · rw [if_neg hintr]
      simp [Orderly, hmore]
  | ready readable writable exceptional =>
    rw [Transfer.selected]
    split_ifs with hret
    · simp [Orderly, hmore]
    · exact orderly_forLoop (s := ⟨_, _, _, _⟩) rule
        ⟨Finset.inter_subset_left.trans hs.1, Finset.inter_subset_left.trans hs.2⟩ hmore hret

/-- Each answer keeps the order. -/
theorem orderly_step (rule : OrderlyRule f) (w : Waits τ) (answer : SysAnswer)
    (h : Orderly f fd (.waiting w)) : Orderly f fd (f.step fd w answer) := by
  cases w with
  | inSelect s =>
    cases answer with
    | select answer left =>
      rw [Transfer.step_select]
      exact orderly_selected (s := { s with timeout := s.timeout.map fun _ => left }) rule h.1 h.2
        answer
    | _ => exact h
  | inTransfer turns s =>
    obtain ⟨rfl, hs, hmore⟩ := h
    rw [Transfer.step_inTransfer]
    cases hafter : f.answered s.data answer with
    | again data => exact ⟨rfl, hs, rule.again _ _ _ hmore hafter⟩
    | next data => exact orderly_whileLoop hs
    | returns result =>
      cases result with
      | ok result => exact rule.returns _ _ _ _ hmore hafter
      | error fault => trivial

/-- So do any number of answers. -/
theorem orderly_after (rule : OrderlyRule f) {p : Point (Waits τ) (Result τ)}
    (h : Orderly f fd p) (answers : List SysAnswer) : Orderly f fd (f.after fd p answers) := by
  induction answers generalizing p with
  | nil => rwa [Transfer.after, goOn_nil]
  | cons answer answers ih =>
    cases p with
    | waiting w => exact ih (orderly_step rule w answer h)
    | returned result => rwa [Transfer.after, goOn_returned]

end Loop

/-! ## The two functions -/

/-- A read keeps the rule. -/
theorem readRule_orderly : OrderlyRule readTransfer where
  prepares _ h := h
  again data answer data' hmore h := by
    cases answer with
    | failed errno =>
      cases errno <;> cases h
      exact hmore
    | data piece => cases h
    | endOfFile => cases h
    | _ =>
      cases h
      exact hmore
  returns data answer code data' hmore h := by
    cases answer with
    | endOfFile =>
      cases h
      simp [hmore]
    | failed errno => cases errno <;> cases h
    | _ => cases h

/-- So does a write. -/
theorem writeRule_orderly : OrderlyRule writeTransfer where
  prepares _ h := h
  again data answer data' hmore h := by
    cases answer with
    | failed errno =>
      cases errno <;> cases h
      exact hmore
    | accepted accepted => cases h
    | _ =>
      cases h
      exact hmore
  returns data answer code data' hmore h := by
    cases answer with
    | failed errno =>
      cases errno <;> cases h <;> simp [hmore]
    | _ => cases h

/-- What is missing is nothing exactly if all has been moved. -/
theorem more_eq_false_iff {d : Moving} {moved : ℕ} {len : UInt32}
    (hmissing : d.r.toNat + d.len.toNat = len.toNat) (hcounts : d.r.toNat = moved) :
    (decide (d.len ≠ 0)) = false ↔ moved = len.toNat := by
  have hzero : d.len = 0 ↔ d.len.toNat = 0 := UInt32.toNat_inj.symm
  rw [decide_eq_false_iff_not, not_not, hzero]
  omega

/-- **The codes of `conn_read` and `conn_write`.**  However the system answers, they return 0
if they have moved all they were asked to move, and only then. -/
theorem transfer_codes (fd : ℤ) (buf : List UInt8) (len : UInt32) (locals : Locals)
    (answers : List SysAnswer) :
    (∀ code d, readTransfer.Permitted fd (connReadFrom fd buf len locals) answers →
      readTransfer.after fd (connReadFrom fd buf len locals) answers = .returned (.ok (code, d)) →
        (code = 0 ↔ ((readTransfer.history fd (connReadFrom fd buf len locals) answers).flatMap
          bytesRead).length = len.toNat)) ∧
    (∀ code d, writeTransfer.Permitted fd (connWriteFrom fd buf len) answers →
      writeTransfer.after fd (connWriteFrom fd buf len) answers = .returned (.ok (code, d)) →
        (code = 0 ↔ ((writeTransfer.history fd (connWriteFrom fd buf len) answers).flatMap
          bytesWritten).length = len.toNat)) := by
  constructor
  · intro code d hpermitted hreturned
    obtain ⟨_, _, hresult, -, -, hd⟩ := (readRule fd buf len).run_returned
      (readSoFar_start fd buf len locals) hpermitted hreturned
    cases hresult
    have hstart : Orderly readTransfer fd (connReadFrom fd buf len locals) := by
      apply orderly_whileLoop
      simp [OnlyOwn, fdZero]
    have horderly := orderly_after readRule_orderly hstart answers
    rw [hreturned] at horderly
    exact horderly.trans (more_eq_false_iff hd.missing hd.counts)
  · intro code d hpermitted hreturned
    obtain ⟨_, _, hresult, -, -, hd⟩ := (writeRule fd buf len).run_returned
      (writtenSoFar_start fd buf len) hpermitted hreturned
    cases hresult
    have hstart : Orderly writeTransfer fd (connWriteFrom fd buf len) := by
      apply orderly_whileLoop
      simp [OnlyOwn]
    have horderly := orderly_after writeRule_orderly hstart answers
    rw [hreturned] at horderly
    exact horderly.trans (more_eq_false_iff hd.missing hd.counts)

/-- Three bytes in two pieces, and one of three bytes before the connection is closed. -/
theorem transfer_codes_of_pieces :
    ((readTransfer.history 5 (connReadFrom 5 [7, 8, 9, 10] 3 ⟨∅, ∅, ⟨0, 0⟩⟩)
      samplePieces).flatMap bytesRead).length = 3 ∧
    ((readTransfer.history 5 (connReadFrom 5 [7, 8, 9, 10] 3 ⟨∅, ∅, ⟨0, 0⟩⟩)
      (samplePieces.take 4 ++ [.endOfFile])).flatMap bytesRead).length ≠ 3 := by
  constructor
  · refine ((transfer_codes 5 [7, 8, 9, 10] 3 ⟨∅, ∅, ⟨0, 0⟩⟩ samplePieces).1 0
      ⟨3, 0, [1, 2, 3, 10]⟩ ?_ rfl).mp rfl
    exact ⟨trivial, trivial, show 1 ≤ 3 by omega, trivial, trivial, trivial, trivial,
      show 2 ≤ 2 by omega, trivial⟩
  · intro hall
    have hcode := ((transfer_codes 5 [7, 8, 9, 10] 3 ⟨∅, ∅, ⟨0, 0⟩⟩
      (samplePieces.take 4 ++ [.endOfFile])).1 (-3) ⟨1, 2, [1, 8, 9, 10]⟩ ?_ rfl).mpr hall
    · cases hcode
    · exact ⟨trivial, trivial, show 1 ≤ 3 by omega, trivial, trivial, trivial⟩

end MirrorLink.Analysis
