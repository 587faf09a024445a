import MirrorLink.Program.Buffer
import MirrorLink.Program.SystemCalls
import MirrorLink.Library.Heap

/-!
# Transfers: `conn_read`, `conn_read_all` and `conn_write` of `UI/conn.c`

The three functions are one loop: they wait in `select`, give up if nothing or something
exceptional is flagged, and transfer.  What they differ in is a `Transfer`: which set the
socket is in, when the loop ends, and how a `read` or a `write` that comes back is taken.

`select` is given the sets it has left the last time, and the loop over its result has as many
turns as descriptors are flagged.
-/

set_option autoImplicit false

namespace MirrorLink.Program

open MirrorLink.Library

/-! ## The loop -/

/-- How the code goes on when a transfer has come back: it calls again, goes to the next turn
of the loop `for`, or returns. -/
inductive After (τ : Type) where
  | again (data : τ)
  | next (data : τ)
  | returns (result : Except Fault (ℤ × τ))

inductive Direction where
  | reads
  | writes
  deriving DecidableEq

/-- What the three functions differ in, over their own variables. -/
structure Transfer (τ : Type) where
  direction : Direction
  /-- The condition of `while`. -/
  more : τ → Bool
  /-- What is done when the socket is found ready. -/
  prepare : τ → τ
  call : ℤ → τ → SysCall
  answered : τ → SysAnswer → After τ

/-- The variables of the loop: `rfds` or `wfds`, `efds`, the timeout that is passed, and those
of the transfer. -/
structure Loop (τ : Type) where
  fds : FdSet
  efds : FdSet
  timeout : Option Timeval
  data : τ

/-- Where a function waits: in `select`, or in a transfer with `turns` turns of `for` to come. -/
inductive Waits (τ : Type) where
  | inSelect (s : Loop τ)
  | inTransfer (turns : ℕ) (s : Loop τ)

/-- What a function returns: its code and its variables. -/
abbrev Result (τ : Type) : Type := Except Fault (ℤ × τ)

namespace Transfer

variable {τ : Type} (f : Transfer τ) (fd : ℤ)

def selectCall (s : Loop τ) : SysCall :=
  match f.direction with
  | .reads => .select (fd + 1) (some s.fds) none (some s.efds) s.timeout
  | .writes => .select (fd + 1) none (some s.fds) (some s.efds) s.timeout

/-- `while (len)` or `while (1)` -/
def whileLoop (s : Loop τ) : Point (Waits τ) (Result τ) :=
  if f.more s.data then .waiting (.inSelect s) else .returned (.ok (0, s.data))

/-- `for (i = 0; i < ret; i++)`, with the number of turns that are left. -/
def forLoop : ℕ → Loop τ → Point (Waits τ) (Result τ)
  | 0, s => f.whileLoop s
  | turns + 1, s =>
    if fd ∈ s.efds then .returned (.ok (-1, s.data))
    else if fd ∈ s.fds then .waiting (.inTransfer turns { s with data := f.prepare s.data })
    else forLoop turns s

/-- What follows `select`. -/
def selected (s : Loop τ) : Selected → Point (Waits τ) (Result τ)
  | .failed errno => if errno = .intr then f.whileLoop s else .returned (.ok (-1, s.data))
  | .ready readable writable exceptional =>
    let fds := s.fds ∩ match f.direction with
      | .reads => readable
      | .writes => writable
    let efds := s.efds ∩ exceptional
    let ret := fds.card + efds.card
    if ret = 0 then .returned (.ok (-2, s.data))
    else f.forLoop fd ret { s with fds := fds, efds := efds }

/-- What is waited for. -/
def waitsFor : Waits τ → SysCall
  | .inSelect s => f.selectCall fd s
  | .inTransfer _ s => f.call fd s.data

/-- What follows a transfer. -/
def transferred (turns : ℕ) (s : Loop τ) : After τ → Point (Waits τ) (Result τ)
  | .again data => .waiting (.inTransfer turns { s with data := data })
  | .next data => f.forLoop fd turns { s with data := data }
  | .returns result => .returned result

/-- What an answer leads to; one that is not to the call is not heard. -/
def step : Waits τ → SysAnswer → Point (Waits τ) (Result τ)
  | .inSelect s, .select selected left =>
    f.selected fd { s with timeout := s.timeout.map fun _ => left } selected
  | .inSelect s, _ => .waiting (.inSelect s)
  | .inTransfer turns s, answer => f.transferred fd turns s (f.answered s.data answer)

/-- The answer of `select`. -/
@[simp] theorem step_select (s : Loop τ) (answer : Selected) (left : Timeval) :
    f.step fd (.inSelect s) (.select answer left) =
      f.selected fd { s with timeout := s.timeout.map fun _ => left } answer := rfl

/-- The answer of a transfer. -/
@[simp] theorem step_inTransfer (turns : ℕ) (s : Loop τ) (answer : SysAnswer) :
    f.step fd (.inTransfer turns s) answer =
      f.transferred fd turns s (f.answered s.data answer) := by
  cases answer <;> rfl

/-! ### Runs -/

/-- Where the function stands after some answers. -/
abbrev after (p : Point (Waits τ) (Result τ)) (answers : List SysAnswer) :
    Point (Waits τ) (Result τ) :=
  goOn (f.step fd) p answers

/-- What it has called for and been answered. -/
abbrev history (p : Point (Waits τ) (Result τ)) (answers : List SysAnswer) :
    List (SysCall × SysAnswer) :=
  exchanges (f.waitsFor fd) (f.step fd) p answers

/-- The system keeps to its contract. -/
abbrev Permitted (p : Point (Waits τ) (Result τ)) (answers : List SysAnswer) : Prop :=
  AllAllowed (f.waitsFor fd) (f.step fd) SysCall.Allows p answers

end Transfer

/-! ## `conn_read` -/

/-- Local variables that are not initialized: what they hold when the function is called. -/
structure Locals where
  fds : FdSet
  efds : FdSet
  tv : Timeval

/-- `r`, `len`, and the bytes from `buf` on. -/
structure Moving where
  r : UInt32
  len : UInt32
  buf : List UInt8

/-- `read` to `buf + r`. -/
def storeAt (buf : List UInt8) (r : UInt32) (bytes : List UInt8) : List UInt8 :=
  buf.take r.toNat ++ overlay bytes (buf.drop r.toNat)

/-- A `read` has come back to `conn_read`; an error that is neither `EAGAIN` nor `EINTR` is
passed over. -/
def readAnswered (d : Moving) : SysAnswer → After Moving
  | .data piece =>
    let t := UInt32.ofNat piece.bytes.length
    .next ⟨d.r + t, d.len - t, storeAt d.buf d.r piece.bytes⟩
  | .endOfFile => .returns (.ok (-3, d))
  | .failed .again => .next d
  | .failed .intr => .again d
  | .failed _ => .next d
  | _ => .again d

def readTransfer : Transfer Moving where
  direction := .reads
  more d := d.len ≠ 0
  prepare := id
  call fd d := .read fd d.r.toNat d.len.toNat
  answered := readAnswered

/-- `conn_read`: of the timeout, `tv_sec` is set only if it is not passed. -/
def connReadFrom (fd : ℤ) (buf : List UInt8) (len : UInt32) (locals : Locals) :
    Point (Waits Moving) (Result Moving) :=
  readTransfer.whileLoop
    { fds := insert fd (fdZero locals.fds)
      efds := insert fd (fdZero locals.efds)
      timeout := if len = 1 then none else some { locals.tv with tvUsec := 0 }
      data := ⟨0, len, buf⟩ }

/-! ## `conn_read_all` -/

/-- A `read` has come back to `conn_read_all`, which makes room for the next one. -/
def readAllAnswered (b : Buffer) : SysAnswer → After Buffer
  | .data piece =>
    match b.fill piece.bytes with
    | some b => .again (b.append 1024)
    | none => .returns (.error .outsideArray)
  | .endOfFile => .returns (.ok (-3, b))
  | .failed .again => .returns (.ok (0, b))
  | .failed .intr => .again b
  | .failed _ => .next b
  | _ => .again b

/-- A piece that fits is kept, and the buffer grows. -/
theorem readAllAnswered_of_fill {b b' : Buffer} {piece : Piece}
    (h : b.fill piece.bytes = some b') :
    readAllAnswered b (.data piece) = .again (b'.append 1024) := by
  rw [readAllAnswered, h]

/-- A piece that does not fit is read past the end. -/
theorem readAllAnswered_of_no_room {b : Buffer} {piece : Piece} (h : b.fill piece.bytes = none) :
    readAllAnswered b (.data piece) = .returns (.error .outsideArray) := by
  rw [readAllAnswered, h]

def readAllTransfer : Transfer Buffer where
  direction := .reads
  more _ := true
  prepare b := b.append 1024
  call fd b := .read fd b.len 1024
  answered := readAllAnswered

/-- `conn_read_all` -/
def connReadAllFrom (fd : ℤ) (b : Buffer) : Point (Waits Buffer) (Result Buffer) :=
  readAllTransfer.whileLoop { fds := {fd}, efds := {fd}, timeout := none, data := b }

/-! ## `conn_write` -/

/-- A `write` has come back to `conn_write`. -/
def writeAnswered (d : Moving) : SysAnswer → After Moving
  | .accepted accepted =>
    let t := UInt32.ofNat accepted.count
    .next ⟨d.r + t, d.len - t, d.buf⟩
  | .failed .again => .next d
  | .failed .intr => .again d
  | .failed _ => .returns (.ok (-1, d))
  | _ => .again d

def writeTransfer : Transfer Moving where
  direction := .writes
  more d := d.len ≠ 0
  prepare := id
  call fd d := .write fd ((d.buf.drop d.r.toNat).take d.len.toNat)
  answered := writeAnswered

/-- `conn_write` -/
def connWriteFrom (fd : ℤ) (buf : List UInt8) (len : UInt32) :
    Point (Waits Moving) (Result Moving) :=
  writeTransfer.whileLoop { fds := {fd}, efds := {fd}, timeout := none, data := ⟨0, len, buf⟩ }

end MirrorLink.Program
