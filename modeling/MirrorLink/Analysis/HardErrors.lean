import MirrorLink.Analysis.TransferRule

/-!
# Errors of `read` and `write`

An error that is neither `EAGAIN` nor `EINTR` ends `conn_write` at once with -1.  `conn_read`
and `conn_read_all` pass it over: the loop goes on where it stands, so that they call the
system again or, if nothing is missing any more, return 0.
-/

set_option autoImplicit false

namespace MirrorLink.Analysis

open MirrorLink.Library MirrorLink.Program

/-- Neither `EAGAIN`, which is `EWOULDBLOCK`, nor `EINTR`. -/
def IsHard (errno : Errno) : Prop := errno ≠ .again ∧ errno ≠ .intr

/-- The function waits in a `read` or a `write`. -/
def InTransfer {τ : Type} (f : Transfer τ) (fd : ℤ) (p : Point (Waits τ) (Result τ))
    (before : List SysAnswer) : Prop :=
  ∃ turns s, f.after fd p before = .waiting (.inTransfer turns s)

/-- If the transfer that is waited for after some answers fails with a hard error, -1 is
returned, nothing else is called for, and what has been transferred is as it was. -/
def ReportsError {τ : Type} (f : Transfer τ) (fd : ℤ) (p : Point (Waits τ) (Result τ))
    (before : List SysAnswer) (errno : Errno) (later : List SysAnswer) : Prop :=
  ∀ turns s, f.after fd p before = .waiting (.inTransfer turns s) → IsHard errno →
    calls (f.waitsFor fd) (f.step fd) p (before ++ .failed errno :: later) =
        calls (f.waitsFor fd) (f.step fd) p before ∧
      f.after fd p (before ++ .failed errno :: later) = .returned (.ok (-1, s.data))

section Loop

variable {τ : Type} {f : Transfer τ} {fd : ℤ}

/-- A transfer is only called for while the socket is flagged, and not as exceptional. -/
def ReadySets (fd : ℤ) : Point (Waits τ) (Result τ) → Prop
  | .waiting (.inTransfer _ s) => fd ∉ s.efds ∧ fd ∈ s.fds
  | _ => True

/-- The loop of a read begins with the sets it needs. -/
theorem readySets_whileLoop (s : Loop τ) : ReadySets fd (f.whileLoop s) := by
  unfold Transfer.whileLoop
  split <;> trivial

/-- So does the loop of a transfer. -/
theorem readySets_forLoop (turns : ℕ) (s : Loop τ) : ReadySets fd (f.forLoop fd turns s) := by
  induction turns with
  | zero => exact readySets_whileLoop s
  | succ turns ih =>
    unfold Transfer.forLoop
    by_cases hexcept : fd ∈ s.efds
    · rw [if_pos hexcept]
      trivial
    · rw [if_neg hexcept]
      by_cases hready : fd ∈ s.fds
      · rw [if_pos hready]
        exact ⟨hexcept, hready⟩
      · rw [if_neg hready]
        exact ih

/-- What `select` leaves may be missing a descriptor only in a call that returns. -/
theorem readySets_selected (s : Loop τ) (answer : Selected) :
    ReadySets fd (f.selected fd s answer) := by
  cases answer with
  | failed errno =>
    rw [Transfer.selected]
    split_ifs
    · exact readySets_whileLoop s
    · trivial
  | ready readable writable exceptional =>
    rw [Transfer.selected]
    split_ifs
    · trivial
    · exact readySets_forLoop _ _

/-- Each answer keeps the sets ready. -/
theorem readySets_step (w : Waits τ) (answer : SysAnswer) (h : ReadySets fd (.waiting w)) :
    ReadySets fd (f.step fd w answer) := by
  cases w with
  | inSelect s =>
    cases answer with
    | select answer left =>
      rw [Transfer.step_select]
      exact readySets_selected _ answer
    | _ => trivial
  | inTransfer turns s =>
    rw [Transfer.step_inTransfer]
    cases f.answered s.data answer with
    | again data => exact h
    | next data => exact readySets_forLoop turns _
    | returns result => trivial

/-- So do any number of answers. -/
theorem readySets_after {p : Point (Waits τ) (Result τ)} (h : ReadySets fd p)
    (answers : List SysAnswer) : ReadySets fd (f.after fd p answers) := by
  induction answers generalizing p with
  | nil => rwa [Transfer.after, goOn_nil]
  | cons answer answers ih =>
    cases p with
    | waiting w => exact ih (readySets_step w answer h)
    | returned result => rwa [Transfer.after, goOn_returned]

/-- While the socket is flagged the loop never returns -1. -/
theorem forLoop_goes_on (turns : ℕ) {s : Loop τ} (hexcept : fd ∉ s.efds) (hready : fd ∈ s.fds) :
    (∃ w, f.forLoop fd turns s = .waiting w) ∨
      f.forLoop fd turns s = .returned (.ok (0, s.data)) := by
  cases turns with
  | zero =>
    show (∃ w, f.whileLoop s = .waiting w) ∨ f.whileLoop s = _
    unfold Transfer.whileLoop
    by_cases hmore : f.more s.data = true
    · rw [if_pos hmore]
      exact .inl ⟨_, rfl⟩
    · rw [if_neg hmore]
      exact .inr rfl
  | succ turns =>
    rw [Transfer.forLoop, if_neg hexcept, if_pos hready]
    exact .inl ⟨_, rfl⟩

variable {p : Point (Waits τ) (Result τ)} {before later : List SysAnswer} {errno : Errno}

/-- What returns at a hard error reports it. -/
theorem reportsError_of_returns (hhard : IsHard errno → ∀ d,
    f.answered d (.failed errno) = .returns (.ok (-1, d))) :
    ReportsError f fd p before errno later := by
  intro turns s hs herrno
  have hstep : f.step fd (.inTransfer turns s) (.failed errno) = .returned (.ok (-1, s.data)) := by
    rw [Transfer.step_inTransfer, hhard herrno]
    rfl
  constructor
  · rw [calls_append_cons _ _ hs, hstep, calls_returned, List.append_nil]
  · rw [Transfer.after, goOn_append_cons _ hs, hstep, goOn_returned]

/-- What passes a hard error over reports none. -/
theorem not_reportsError_of_next (hsets : ReadySets fd p)
    (hhard : IsHard errno → ∀ d, f.answered d (.failed errno) = .next d)
    (hin : InTransfer f fd p before) (herrno : IsHard errno) :
    ¬ ReportsError f fd p before errno later := by
  intro hreports
  obtain ⟨turns, s, hs⟩ := hin
  obtain ⟨hcalls, hreturned⟩ := hreports turns s hs herrno
  have hready : ReadySets fd (.waiting (.inTransfer turns s)) := hs ▸ readySets_after hsets before
  have hstep : f.step fd (.inTransfer turns s) (.failed errno) = f.forLoop fd turns s := by
    rw [Transfer.step_inTransfer, hhard herrno]
    rfl
  rw [calls_append_cons _ _ hs, hstep] at hcalls
  rw [Transfer.after, goOn_append_cons _ hs, hstep] at hreturned
  rcases forLoop_goes_on (f := f) turns hready.1 hready.2 with ⟨w, hw⟩ | h0
  · -- the system is called again
    rw [hw] at hcalls
    exact calls_waiting_ne_nil _ _ w later (List.append_right_eq_self.mp hcalls)
  · rw [h0, goOn_returned] at hreturned
    cases hreturned

end Loop

/-! ## The three functions -/

/-- A call of one of the functions. -/
inductive ConnCall where
  | connRead (fd : ℤ) (buf : List UInt8) (len : UInt32) (locals : Locals)
  | connReadAll (fd : ℤ) (b : Buffer)
  | connWrite (fd : ℤ) (buf : List UInt8) (len : UInt32)

namespace ConnCall

def InTransfer (before : List SysAnswer) : ConnCall → Prop
  | connRead fd buf len locals =>
    Analysis.InTransfer readTransfer fd (connReadFrom fd buf len locals) before
  | connReadAll fd b => Analysis.InTransfer readAllTransfer fd (connReadAllFrom fd b) before
  | connWrite fd buf len => Analysis.InTransfer writeTransfer fd (connWriteFrom fd buf len) before

def ReportsError (before : List SysAnswer) (errno : Errno) (later : List SysAnswer) :
    ConnCall → Prop
  | connRead fd buf len locals =>
    Analysis.ReportsError readTransfer fd (connReadFrom fd buf len locals) before errno later
  | connReadAll fd b =>
    Analysis.ReportsError readAllTransfer fd (connReadAllFrom fd b) before errno later
  | connWrite fd buf len =>
    Analysis.ReportsError writeTransfer fd (connWriteFrom fd buf len) before errno later

def IsWrite : ConnCall → Prop
  | connWrite _ _ _ => True
  | _ => False

end ConnCall

/-- Other errors are not hard errors of a transfer. -/
theorem reportsError_of_not_inTransfer {τ : Type} {f : Transfer τ} {fd : ℤ}
    {p : Point (Waits τ) (Result τ)} {before later : List SysAnswer} {errno : Errno}
    (h : ¬ (InTransfer f fd p before ∧ IsHard errno)) :
    ReportsError f fd p before errno later :=
  fun turns s hs herrno => absurd ⟨⟨turns, s, hs⟩, herrno⟩ h

/-- A hard error is no interruption and no full buffer. -/
theorem IsHard.cases {errno : Errno} (h : IsHard errno) :
    errno = .inProgress ∨ ∃ code, errno = .other code := by
  cases errno with
  | again => exact absurd rfl h.1
  | intr => exact absurd rfl h.2
  | inProgress => exact .inl rfl
  | other code => exact .inr ⟨code, rfl⟩

/-- **Hard errors.**  They are reported by `conn_write` and by neither of the others. -/
theorem hard_errors_iff (c : ConnCall) (before later : List SysAnswer) (errno : Errno) :
    c.ReportsError before errno later ↔ (c.InTransfer before → IsHard errno → c.IsWrite) := by
  cases c with
  | connRead fd buf len locals =>
    constructor
    · intro hreports hin herrno
      refine not_reportsError_of_next (readySets_whileLoop _) ?_ hin herrno hreports
      intro h d
      rcases h.cases with rfl | ⟨code, rfl⟩ <;> rfl
    · intro h
      exact reportsError_of_not_inTransfer fun hboth => h hboth.1 hboth.2
  | connReadAll fd b =>
    constructor
    · intro hreports hin herrno
      refine not_reportsError_of_next (readySets_whileLoop _) ?_ hin herrno hreports
      intro h d
      rcases h.cases with rfl | ⟨code, rfl⟩ <;> rfl
    · intro h
      exact reportsError_of_not_inTransfer fun hboth => h hboth.1 hboth.2
  | connWrite fd buf len =>
    constructor
    · intro _ _ _
      trivial
    · intro _
      refine reportsError_of_returns ?_
      intro h d
      rcases h.cases with rfl | ⟨code, rfl⟩ <;> rfl

/-- The connection has been reset (104). -/
theorem hard_errors_fail :
    ¬ ∀ (c : ConnCall) (before later : List SysAnswer) (errno : Errno),
      c.ReportsError before errno later := by
  intro h
  have hreports := h (.connRead 5 [0] 1 ⟨∅, ∅, ⟨0, 0⟩⟩) [.select (.ready {5} ∅ ∅) ⟨0, 0⟩] []
    (.other 104)
  have hcalls := (hreports 0 _ rfl ⟨by simp, by simp⟩).1
  exact absurd (congrArg List.length hcalls) (by decide)

end MirrorLink.Analysis
