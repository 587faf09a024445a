import MirrorLink.Analysis.TransferRule
import MirrorLink.Program.ConnOpen

/-!
# Variables that are not initialized

`conn_read` passes a timeout of which only `tv_usec` is set, unless it reads a single byte.
`conn_open` passes sets and a timeout that are not set at all, if its `connect` is interrupted.
Everything else it does is determined by its arguments and by what the system answers, and
the socket it opens is returned or closed, once.
-/

set_option autoImplicit false

namespace MirrorLink.Analysis

open MirrorLink.Library MirrorLink.Program

/-- What a program that has returned has returned. -/
def returnedOf {σ ρ : Type} : Point σ ρ → Option ρ
  | .waiting _ => none
  | .returned r => some r

/-! ## Independence -/

/-- `conn_open` calls for the same and returns the same, whatever its variables hold. -/
def OpenIndependent (ip : List UInt8) (port : UInt16) (answers : List SysAnswer) : Prop :=
  ∀ locals locals' : Locals,
    calls (openCall ip port) (openStep locals) connOpenStart answers =
        calls (openCall ip port) (openStep locals') connOpenStart answers ∧
      returnedOf (goOn (openStep locals) connOpenStart answers) =
        returnedOf (goOn (openStep locals') connOpenStart answers)

/-- `conn_read` calls for the same and returns the same, whatever its variables hold. -/
def ReadIndependent (fd : ℤ) (buf : List UInt8) (len : UInt32) (answers : List SysAnswer) : Prop :=
  ∀ locals locals' : Locals,
    calls (readTransfer.waitsFor fd) (readTransfer.step fd) (connReadFrom fd buf len locals)
        answers =
      calls (readTransfer.waitsFor fd) (readTransfer.step fd) (connReadFrom fd buf len locals')
        answers ∧
      returnedOf (readTransfer.after fd (connReadFrom fd buf len locals) answers) =
        returnedOf (readTransfer.after fd (connReadFrom fd buf len locals') answers)

/-- `connect` is interrupted. -/
def ConnectInterrupted (answers : List SysAnswer) : Prop :=
  ∃ fd later, answers = .socket (some fd) :: .connect (some .intr) :: later

/-- The system keeps to its contract with `conn_open`, for some content of its variables. -/
def OpenPermitted (ip : List UInt8) (port : UInt16) (answers : List SysAnswer) : Prop :=
  ∃ locals, AllAllowed (openCall ip port) (openStep locals) SysCall.Allows connOpenStart answers

/-- `connect` has come back. -/
def PastConnect : Point OpenWaits ℤ → Prop
  | .waiting .inSocket => False
  | .waiting (.inConnect _) => False
  | _ => True

/-- The descriptor `conn_open` holds when it waits. -/
def heldFds : OpenWaits → List ℤ
  | .inSocket => []
  | .inConnect fd => [fd]
  | .inSelect fd _ => [fd]
  | .inGetsockopt fd => [fd]
  | .inClose fd => [fd]

/-- It waits behind `connect`, with its socket. -/
def GoesOn (fd : ℤ) (p : Point OpenWaits ℤ) : Prop :=
  ∃ w, p = .waiting w ∧ heldFds w = [fd] ∧ PastConnect p

/-- A failure closes the descriptor. -/
theorem goesOn_failRet (fd : ℤ) : GoesOn fd (failRet fd) := ⟨_, rfl, rfl, trivial⟩

/-- The waiting goes on with the descriptor. -/
theorem goesOn_openFor (fd : ℤ) (locals : Locals) (turns : ℕ) :
    GoesOn fd (openFor fd locals turns) := by
  induction turns with
  | zero => exact goesOn_failRet fd
  | succ turns ih =>
    unfold openFor
    split_ifs
    · exact goesOn_failRet fd
    · exact ⟨_, rfl, rfl, trivial⟩
    · exact ih

/-- So does what is done with the answer of `select`. -/
theorem goesOn_openSelected (fd : ℤ) (locals : Locals) (selected : Selected) :
    GoesOn fd (openSelected fd locals selected) := by
  cases selected with
  | failed errno =>
    rw [openSelected]
    split_ifs
    · exact ⟨_, rfl, rfl, trivial⟩
    · exact goesOn_failRet fd
  | ready readable writable exceptional =>
    rw [openSelected]
    split_ifs
    · exact goesOn_failRet fd
    · exact goesOn_openFor fd _ _

/-- And a `connect` that has failed. -/
theorem goesOn_openConnected (locals : Locals) (fd : ℤ) {failure : Option Errno}
    (h : failure ≠ none) : GoesOn fd (openConnected locals fd failure) := by
  unfold openConnected
  split
  · exact absurd rfl h
  · exact ⟨_, rfl, rfl, trivial⟩
  · exact ⟨_, rfl, rfl, trivial⟩
  · exact goesOn_failRet fd

/-- What goes on is past `connect`. -/
theorem GoesOn.pastConnect {fd : ℤ} {p : Point OpenWaits ℤ} (h : GoesOn fd p) : PastConnect p := by
  obtain ⟨w, -, -, hpast⟩ := h
  exact hpast

/-- So is the answer of `connect`. -/
theorem pastConnect_openConnected (locals : Locals) (fd : ℤ) (failure : Option Errno) :
    PastConnect (openConnected locals fd failure) := by
  by_cases h : failure = none
  · subst h
    trivial
  · exact (goesOn_openConnected locals fd h).pastConnect

/-- Behind `connect` a step takes no notice of what the variables held at first. -/
theorem openStep_pastConnect (locals locals' : Locals) {w : OpenWaits}
    (hw : PastConnect (.waiting w)) (answer : SysAnswer) :
    openStep locals w answer = openStep locals' w answer ∧
      PastConnect (openStep locals w answer) := by
  cases w with
  | inSocket => exact hw.elim
  | inConnect fd => exact hw.elim
  | inSelect fd ls =>
    cases answer with
    | select selected left => exact ⟨rfl, (goesOn_openSelected fd _ selected).pastConnect⟩
    | _ => exact ⟨rfl, trivial⟩
  | inGetsockopt fd =>
    cases answer with
    | getsockopt val =>
      refine ⟨rfl, ?_⟩
      rw [openStep]
      split_ifs <;> trivial
    | _ => exact ⟨rfl, trivial⟩
  | inClose fd => cases answer <;> exact ⟨rfl, trivial⟩

/-- **Past `connect`** nothing depends on what was in the locals. -/
theorem run_pastConnect (ip : List UInt8) (port : UInt16) (locals locals' : Locals)
    {p : Point OpenWaits ℤ} (hp : PastConnect p) (answers : List SysAnswer) :
    calls (openCall ip port) (openStep locals) p answers =
        calls (openCall ip port) (openStep locals') p answers ∧
      returnedOf (goOn (openStep locals) p answers) =
        returnedOf (goOn (openStep locals') p answers) := by
  induction answers generalizing p with
  | nil => cases p <;> exact ⟨rfl, rfl⟩
  | cons answer answers ih =>
    cases p with
    | waiting w =>
      obtain ⟨hsame, hpast⟩ := openStep_pastConnect locals locals' hp answer
      obtain ⟨hcalls, hreturned⟩ := ih hpast
      constructor
      · show _ :: calls _ _ (openStep locals w answer) answers = _
        rw [hcalls, hsame]
        rfl
      · rw [goOn_waiting, goOn_waiting, hreturned, hsame]
    | returned r => exact ⟨rfl, rfl⟩

/-- A `connect` that is not interrupted leads to the same, whatever the variables held. -/
theorem openConnected_congr (locals locals' : Locals) (fd : ℤ) {failure : Option Errno}
    (h : failure ≠ some .intr) :
    openConnected locals' fd failure = openConnected locals fd failure := by
  unfold openConnected
  split
  · rfl
  · rfl
  · exact absurd rfl h
  · rfl

/-- Nor does anything unless `connect` is interrupted. -/
theorem openIndependent_of_not_interrupted {ip : List UInt8} {port : UInt16}
    {answers : List SysAnswer} (hpermitted : OpenPermitted ip port answers)
    (hnot : ¬ ConnectInterrupted answers) : OpenIndependent ip port answers := by
  intro locals locals'
  rcases answers with _ | ⟨answer, answers⟩
  · exact ⟨rfl, rfl⟩
  obtain ⟨somewhere, hallowed⟩ := hpermitted
  have hsocket := hallowed.1
  cases answer with
  | socket fd =>
    rcases fd with _ | fd
    · obtain ⟨hcalls, hreturned⟩ := run_pastConnect ip port locals locals'
        (p := .returned (-1)) trivial answers
      exact ⟨congrArg (List.cons _) hcalls, hreturned⟩
    rcases answers with _ | ⟨answer, answers⟩
    · exact ⟨rfl, rfl⟩
    have hconnect := hallowed.2.1
    cases answer with
    | connect failure =>
      have hne : failure ≠ some .intr := by
        rintro rfl
        exact hnot ⟨fd, answers, rfl⟩
      have hsame := openConnected_congr locals locals' fd hne
      obtain ⟨hcalls, hreturned⟩ := run_pastConnect ip port locals locals'
        (pastConnect_openConnected locals fd failure) answers
      constructor
      · show _ :: _ :: calls _ _ (openConnected locals fd failure) answers =
          _ :: _ :: calls _ _ (openConnected locals' fd failure) answers
        rw [hsame, hcalls]
      · show returnedOf (goOn _ (openConnected locals fd failure) answers) =
          returnedOf (goOn _ (openConnected locals' fd failure) answers)
        rw [hsame, hreturned]
    | _ => exact hconnect.elim
  | _ => exact hsocket.elim

/-- **`conn_open` depends on its locals** exactly if `connect` is interrupted. -/
theorem openIndependent_iff {ip : List UInt8} {port : UInt16} {answers : List SysAnswer}
    (hpermitted : OpenPermitted ip port answers) :
    OpenIndependent ip port answers ↔ ¬ ConnectInterrupted answers := by
  constructor
  · rintro hsame ⟨fd, later, rfl⟩
    -- the third call is the `select` with what the variables held
    have hcalls := (hsame ⟨∅, ∅, ⟨0, 0⟩⟩ ⟨∅, ∅, ⟨1, 0⟩⟩).1
    have hthird := congrArg (fun l : List SysCall => l[2]?) hcalls
    cases later <;> exact absurd hthird
      (by simp [calls, connOpenStart, openStep, openConnected, openCall])
  · exact openIndependent_of_not_interrupted hpermitted

/-- **`conn_read` depends on its locals** from the second byte on. -/
theorem readIndependent_iff (fd : ℤ) (buf : List UInt8) (len : UInt32)
    (answers : List SysAnswer) : ReadIndependent fd buf len answers ↔ len ≤ 1 := by
  constructor
  · intro hsame
    by_contra hlen
    rw [UInt32.le_iff_toNat_le] at hlen
    have hone : len ≠ 1 := by
      rintro rfl
      exact hlen le_rfl
    have hzero : len ≠ 0 := by
      rintro rfl
      exact hlen (Nat.zero_le _)
    have hfirst := congrArg List.head? (hsame ⟨∅, ∅, ⟨0, 0⟩⟩ ⟨∅, ∅, ⟨1, 0⟩⟩).1
    have hmore : readTransfer.more ⟨0, len, buf⟩ = true := decide_eq_true hzero
    have hstart : ∀ locals, connReadFrom fd buf len locals = .waiting (.inSelect
        ⟨insert fd ∅, insert fd ∅, some { locals.tv with tvUsec := 0 }, ⟨0, len, buf⟩⟩) := by
      intro locals
      unfold connReadFrom Transfer.whileLoop
      rw [if_pos hmore, if_neg hone]
      rfl
    rw [hstart, hstart] at hfirst
    cases answers <;> exact absurd hfirst
      (by simp [calls, Transfer.waitsFor, Transfer.selectCall, readTransfer])
  · intro hlen locals locals'
    have hsame : connReadFrom fd buf len locals = connReadFrom fd buf len locals' := by
      by_cases hone : len = 1
      · unfold connReadFrom
        rw [if_pos hone, if_pos hone]
        rfl
      · have hzero : len = 0 := by
          rw [UInt32.le_iff_toNat_le] at hlen
          have hne : len.toNat ≠ 1 := fun h => hone (UInt32.toNat_inj.mp h)
          have hle : len.toNat ≤ 1 := hlen
          exact UInt32.toNat_inj.mp (show len.toNat = 0 by omega)
        subst hzero
        rfl
    rw [hsame]
    exact ⟨rfl, rfl⟩

/-! ## The socket -/

/-- The descriptors that have been opened. -/
def openedFds : SysCall × SysAnswer → List ℤ
  | (.socket, .socket (some fd)) => [fd]
  | _ => []

/-- The descriptors that have been closed. -/
def closedFds : SysCall × SysAnswer → List ℤ
  | (.close fd, _) => [fd]
  | _ => []

/-- `connect` has succeeded, or `SO_ERROR` was 0. -/
def Connected (fd : ℤ) (h : List (SysCall × SysAnswer)) : Prop :=
  (∃ ip port, (SysCall.connect fd ip port, SysAnswer.connect none) ∈ h) ∨
    (.getsockopt fd, .getsockopt (some 0)) ∈ h

/-- The socket is returned, connected and open, or -1 is returned and what has been opened has
been closed. -/
def OpenEnds (h : List (SysCall × SysAnswer)) (code : ℤ) : Prop :=
  (h.flatMap openedFds = [code] ∧ h.flatMap closedFds = [] ∧ Connected code h) ∨
    (code = -1 ∧ h.flatMap closedFds = h.flatMap openedFds)

/-- While it waits it holds what has been opened, and nothing has been closed. -/
def OpenInv (h : List (SysCall × SysAnswer)) : Point OpenWaits ℤ → Prop
  | .waiting w => h.flatMap openedFds = heldFds w ∧ h.flatMap closedFds = []
  | .returned code => OpenEnds h code

/-- It waits for its socket to be connected. -/
inductive Tries (fd : ℤ) : OpenWaits → Prop where
  | inConnect : Tries fd (.inConnect fd)
  | inSelect (locals : Locals) : Tries fd (.inSelect fd locals)
  | inGetsockopt : Tries fd (.inGetsockopt fd)

section Tries

variable {fd : ℤ} {w : OpenWaits} (htries : Tries fd w) (ip : List UInt8) (port : UInt16)
  (answer : SysAnswer)

include htries

/-- A call that tries holds its descriptor. -/
theorem Tries.held : heldFds w = [fd] := by
  cases htries <;> rfl

/-- It opens nothing. -/
theorem Tries.openedFds_nil : openedFds (openCall ip port w, answer) = [] := by
  cases htries <;> rfl

/-- And closes nothing. -/
theorem Tries.closedFds_nil : closedFds (openCall ip port w, answer) = [] := by
  cases htries <;> rfl

end Tries

/-- **What one answer does.**  `socket` opens, the label `fail_ret` closes, and everything in
between keeps the socket until it is connected. -/
theorem openStep_cases {ip : List UInt8} {port : UInt16} (locals : Locals) {w : OpenWaits}
    {answer : SysAnswer} (hallowed : (openCall ip port w).Allows answer) :
    (w = .inSocket ∧ answer = .socket none ∧ openStep locals w answer = .returned (-1)) ∨
      (∃ fd, w = .inSocket ∧ answer = .socket (some fd) ∧ 0 ≤ fd ∧
        openStep locals w answer = .waiting (.inConnect fd)) ∨
      (∃ fd, w = .inClose fd ∧ openStep locals w answer = .returned (-1)) ∨
      (∃ fd, Tries fd w ∧ Connected fd [(openCall ip port w, answer)] ∧
        openStep locals w answer = .returned fd) ∨
      ∃ fd, Tries fd w ∧ GoesOn fd (openStep locals w answer) := by
  cases w with
  | inSocket =>
    cases answer with
    | socket fd =>
      cases fd with
      | none => exact .inl ⟨rfl, rfl, rfl⟩
      | some fd => exact .inr (.inl ⟨fd, rfl, rfl, hallowed fd rfl, rfl⟩)
    | _ => exact hallowed.elim
  | inConnect fd =>
    cases answer with
    | connect failure =>
      by_cases hfailure : failure = none
      · subst hfailure
        exact .inr (.inr (.inr (.inl ⟨fd, .inConnect,
          .inl ⟨ip, port, List.mem_singleton_self _⟩, rfl⟩)))
      · exact .inr (.inr (.inr (.inr ⟨fd, .inConnect, goesOn_openConnected locals fd hfailure⟩)))
    | _ => exact hallowed.elim
  | inSelect fd ls =>
    cases answer with
    | select selected left =>
      exact .inr (.inr (.inr (.inr ⟨fd, .inSelect ls, goesOn_openSelected fd _ selected⟩)))
    | _ => exact hallowed.elim
  | inGetsockopt fd =>
    cases answer with
    | getsockopt val =>
      rw [openStep]
      split_ifs with hval
      · subst hval
        exact .inr (.inr (.inr (.inl ⟨fd, .inGetsockopt, .inr (List.mem_singleton_self _), rfl⟩)))
      · exact .inr (.inr (.inr (.inr ⟨fd, .inGetsockopt, goesOn_failRet fd⟩)))
    | _ => exact hallowed.elim
  | inClose fd =>
    cases answer with
    | closed => exact .inr (.inr (.inl ⟨fd, rfl, rfl⟩))
    | _ => exact hallowed.elim

/-- What has been connected stays connected. -/
theorem Connected.append {fd : ℤ} {e : SysCall × SysAnswer} (h : Connected fd [e])
    (before : History) : Connected fd (before ++ [e]) := by
  rcases h with ⟨ip, port, hconnect⟩ | hzero
  · exact .inl ⟨ip, port, List.mem_append_right _ hconnect⟩
  · exact .inr (List.mem_append_right _ hzero)

/-- What one answer does to the invariant. -/
theorem openInv_step (ip : List UInt8) (port : UInt16) (locals : Locals)
    (h : List (SysCall × SysAnswer)) (w : OpenWaits) (answer : SysAnswer)
    (hallowed : (openCall ip port w).Allows answer) (hI : OpenInv h (.waiting w)) :
    OpenInv (h ++ [(openCall ip port w, answer)]) (openStep locals w answer) := by
  obtain ⟨hopened, hclosed⟩ := hI
  rcases openStep_cases locals hallowed with ⟨rfl, rfl, hstep⟩ | ⟨fd, rfl, rfl, -, hstep⟩ |
    ⟨fd, rfl, hstep⟩ | ⟨fd, htries, hconnected, hstep⟩ | ⟨fd, htries, w', hstep, hheld, -⟩ <;>
    rw [hstep]
  · refine .inr ⟨rfl, ?_⟩
    rw [History.flatMap_snoc, History.flatMap_snoc, hopened, hclosed]
    rfl
  · constructor
    · rw [History.flatMap_snoc, hopened]
      rfl
    · rw [History.flatMap_snoc, hclosed]
      rfl
  · refine .inr ⟨rfl, ?_⟩
    rw [History.flatMap_snoc, History.flatMap_snoc, hopened, hclosed]
    rfl
  · refine .inl ⟨?_, ?_, hconnected.append h⟩
    · rw [History.flatMap_snoc, hopened, htries.held, htries.openedFds_nil, List.append_nil]
    · rw [History.flatMap_snoc, hclosed, htries.closedFds_nil, List.append_nil]
  · constructor
    · rw [History.flatMap_snoc, hopened, htries.held, hheld, htries.openedFds_nil,
        List.append_nil]
    · rw [History.flatMap_snoc, hclosed, htries.closedFds_nil, List.append_nil]

/-- The socket is not lost, whatever the variables held. -/
theorem openEnds {ip : List UInt8} {port : UInt16} {locals : Locals} {answers : List SysAnswer}
    {code : ℤ}
    (hallowed : AllAllowed (openCall ip port) (openStep locals) SysCall.Allows connOpenStart
      answers)
    (hcode : goOn (openStep locals) connOpenStart answers = .returned code) :
    OpenEnds (exchanges (openCall ip port) (openStep locals) connOpenStart answers) code := by
  have hI := goOn_invariant (openCall ip port) (openStep locals) SysCall.Allows OpenInv
    (openInv_step ip port locals) connOpenStart [] answers ⟨rfl, rfl⟩ hallowed
  rwa [hcode, List.nil_append] at hI

/-- **Uninitialized variables.**  They make a difference to `conn_read` unless it reads a
single byte or none, and to `conn_open` if its `connect` is interrupted; `conn_open` always
returns a connected socket, or -1 with the socket closed once. -/
theorem uninitialised_iff (fd : ℤ) (buf : List UInt8) (len : UInt32) (ip : List UInt8)
    (port : UInt16) (answers : List SysAnswer) :
    (ReadIndependent fd buf len answers ↔ len ≤ 1) ∧
    (OpenPermitted ip port answers →
      (OpenIndependent ip port answers ↔ ¬ ConnectInterrupted answers)) ∧
    ∀ (locals : Locals) (code : ℤ),
      AllAllowed (openCall ip port) (openStep locals) SysCall.Allows connOpenStart answers →
      goOn (openStep locals) connOpenStart answers = .returned code →
        OpenEnds (exchanges (openCall ip port) (openStep locals) connOpenStart answers) code :=
  ⟨readIndependent_iff fd buf len answers, fun hpermitted => openIndependent_iff hpermitted,
    fun _ _ hallowed hcode => openEnds hallowed hcode⟩

/-- A connection that is not there at once, and refused when it is looked for (111). -/
def refused : List SysAnswer :=
  [.socket (some 3), .connect (some .inProgress), .select (.ready ∅ {3} ∅) ⟨1, 0⟩,
    .getsockopt (some 111), .closed]

/-- The answers of a connection that is refused are allowed. -/
theorem allAllowed_refused :
    AllAllowed (openCall [0x31] 80) (openStep ⟨∅, ∅, ⟨0, 0⟩⟩) SysCall.Allows connOpenStart
      refused := by
  simp [refused, AllAllowed, connOpenStart, openStep, openCall, openConnected, openSelected,
    openFor, failRet, fdZero, SysCall.Allows]

/-- It returns -1. -/
theorem goOn_refused :
    goOn (openStep ⟨∅, ∅, ⟨0, 0⟩⟩) connOpenStart refused = .returned (-1) := by
  simp [refused, connOpenStart, openStep, openConnected, openSelected, openFor, failRet, fdZero]

/-- A connection that is refused depends on nothing, and is closed. -/
theorem uninitialised_of_refused :
    OpenIndependent [0x31] 80 refused ∧
      OpenEnds (exchanges (openCall [0x31] 80) (openStep ⟨∅, ∅, ⟨0, 0⟩⟩) connOpenStart refused)
        (-1) := by
  obtain ⟨-, hopen, hends⟩ := uninitialised_iff 3 [0] 1 [0x31] 80 refused
  constructor
  · refine (hopen ⟨_, allAllowed_refused⟩).mpr ?_
    rintro ⟨_, _, heq⟩
    cases heq
  · exact hends _ _ allAllowed_refused goOn_refused

/-- `conn_read` is asked for two bytes. -/
theorem uninitialised_fails :
    ¬ ((∀ (fd : ℤ) (buf : List UInt8) (len : UInt32) (answers : List SysAnswer),
        ReadIndependent fd buf len answers) ∧
      ∀ (ip : List UInt8) (port : UInt16) (answers : List SysAnswer),
        OpenPermitted ip port answers → OpenIndependent ip port answers) := by
  rintro ⟨hread, -⟩
  exact absurd ((readIndependent_iff 5 [0, 0] 2 []).mp (hread 5 [0, 0] 2 [])) (by decide)

end MirrorLink.Analysis
