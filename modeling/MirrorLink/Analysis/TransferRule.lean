import MirrorLink.Program.Transfer

/-!
# The rule of the transfers

`conn_read`, `conn_read_all` and `conn_write` are one loop.  What is to be shown of it is a
property of its variables together with all that has been called for and answered so far: one
where it waits in `select`, one where it waits in a transfer, and one of what it returns.  The
loop keeps them if each answer to a transfer does (`TransferRule.run`).
-/

set_option autoImplicit false

namespace MirrorLink.Analysis

open MirrorLink.Library MirrorLink.Program

/-- What has been called for and answered. -/
abbrev History : Type := List (SysCall × SysAnswer)

/-- What has been moved, read, opened or closed after one more call. -/
theorem History.flatMap_snoc {α : Type} (moves : SysCall × SysAnswer → List α) (h : History)
    (e : SysCall × SysAnswer) : (h ++ [e]).flatMap moves = h.flatMap moves ++ moves e := by
  rw [List.flatMap_append, List.flatMap_singleton]

variable {τ : Type} {f : Transfer τ} {fd : ℤ} {Q Q' : History → τ → Prop}
  {R : History → Result τ → Prop}

/-- The properties hold where the function stands. -/
def Stands (Q Q' : History → τ → Prop) (R : History → Result τ → Prop) (h : History) :
    Point (Waits τ) (Result τ) → Prop
  | .waiting (.inSelect s) => Q h s.data
  | .waiting (.inTransfer _ s) => Q' h s.data
  | .returned result => R h result

/-- What an answer to a transfer leads to. -/
def Goes (Q Q' : History → τ → Prop) (R : History → Result τ → Prop) (h : History) :
    After τ → Prop
  | .again data => Q' h data
  | .next data => Q h data
  | .returns result => R h result

/-- The obligations: one for each thing that happens to the variables. -/
structure TransferRule (f : Transfer τ) (fd : ℤ) (Q Q' : History → τ → Prop)
    (R : History → Result τ → Prop) : Prop where
  asks : ∀ h s selected left d, Q h d → Q (h ++ [(f.selectCall fd s, .select selected left)]) d
  prepares : ∀ h d, Q h d → Q' h (f.prepare d)
  answers : ∀ h d answer, (f.call fd d).Allows answer → Q' h d →
    Goes Q Q' R (h ++ [(f.call fd d, answer)]) (f.answered d answer)
  ends : ∀ h d, Q h d → f.more d = false → R h (.ok (0, d))
  breaks : ∀ h d code, Q h d → code = -1 ∨ code = -2 → R h (.ok (code, d))

namespace TransferRule

/-- The loop of a read keeps what holds before a call. -/
theorem whileLoop (rule : TransferRule f fd Q Q' R) {h : History} {s : Loop τ}
    (hQ : Q h s.data) : Stands Q Q' R h (f.whileLoop s) := by
  unfold Transfer.whileLoop
  by_cases hmore : f.more s.data = true
  · rw [if_pos hmore]
    exact hQ
  · rw [if_neg hmore]
    exact rule.ends h s.data hQ (Bool.eq_false_iff.mpr hmore)

/-- So does the loop of a transfer. -/
theorem forLoop (rule : TransferRule f fd Q Q' R) {h : History} (turns : ℕ) {s : Loop τ}
    (hQ : Q h s.data) : Stands Q Q' R h (f.forLoop fd turns s) := by
  induction turns with
  | zero => exact rule.whileLoop hQ
  | succ turns ih =>
    unfold Transfer.forLoop
    by_cases hexcept : fd ∈ s.efds
    · rw [if_pos hexcept]
      exact rule.breaks h s.data (-1) hQ (.inl rfl)
    · rw [if_neg hexcept]
      by_cases hready : fd ∈ s.fds
      · rw [if_pos hready]
        exact rule.prepares h s.data hQ
      · rw [if_neg hready]
        exact ih

/-- So does what is done with the answer of `select`. -/
theorem selected (rule : TransferRule f fd Q Q' R) {h : History} {s : Loop τ} (hQ : Q h s.data)
    (answer : Selected) : Stands Q Q' R h (f.selected fd s answer) := by
  cases answer with
  | failed errno =>
    rw [Transfer.selected]
    by_cases hintr : errno = .intr
    · rw [if_pos hintr]
      exact rule.whileLoop hQ
    · rw [if_neg hintr]
      exact rule.breaks h s.data (-1) hQ (.inl rfl)
  | ready readable writable exceptional =>
    rw [Transfer.selected]
    split_ifs
    · exact rule.breaks h s.data (-2) hQ (.inr rfl)
    · apply rule.forLoop
      exact hQ

/-- So does what is done with the answer of the transfer. -/
theorem transferred (rule : TransferRule f fd Q Q' R) {h : History} (turns : ℕ) (s : Loop τ)
    {after : After τ} (hgoes : Goes Q Q' R h after) :
    Stands Q Q' R h (f.transferred fd turns s after) := by
  cases after with
  | again data => exact hgoes
  | next data => exact rule.forLoop (s := { s with data := data }) turns hgoes
  | returns result => exact hgoes

/-- **One answer** keeps the properties. -/
theorem step (rule : TransferRule f fd Q Q' R) (h : History) (w : Waits τ) (answer : SysAnswer)
    (hallows : (f.waitsFor fd w).Allows answer) (hstands : Stands Q Q' R h (.waiting w)) :
    Stands Q Q' R (h ++ [(f.waitsFor fd w, answer)]) (f.step fd w answer) := by
  cases w with
  | inSelect s =>
    cases answer with
    | select answer left =>
      exact rule.selected (s := { s with timeout := s.timeout.map fun _ => left })
        (rule.asks h s answer left s.data hstands) answer
    | _ =>
      exfalso
      revert hallows
      unfold Transfer.waitsFor Transfer.selectCall
      cases f.direction <;> exact id
  | inTransfer turns s =>
    exact rule.transferred turns s (rule.answers h s.data answer hallows hstands)

/-- **A run** keeps the properties. -/
theorem run (rule : TransferRule f fd Q Q' R) {p : Point (Waits τ) (Result τ)}
    (hstart : Stands Q Q' R [] p) {answers : List SysAnswer} (hallowed : f.Permitted fd p answers) :
    Stands Q Q' R (f.history fd p answers) (f.after fd p answers) :=
  goOn_invariant (f.waitsFor fd) (f.step fd) SysCall.Allows (Stands Q Q' R) rule.step p [] answers
    hstart hallowed

/-- What a run returns. -/
theorem run_returned (rule : TransferRule f fd Q Q' R) {p : Point (Waits τ) (Result τ)}
    (hstart : Stands Q Q' R [] p) {answers : List SysAnswer} (hallowed : f.Permitted fd p answers)
    {result : Result τ} (h : f.after fd p answers = .returned result) :
    R (f.history fd p answers) result := by
  have hstands := rule.run hstart hallowed
  rwa [h] at hstands

end TransferRule

end MirrorLink.Analysis
