import MirrorLink.Library.Blocks
import MirrorLink.Library.Interaction
import MirrorLink.Program.Session
import MirrorLink.Program.Transfer

/-!
# What `CoreStack/vnc_session.c` calls for

The functions of `vnc_session.c` as programs that call for memory, for what is in it, and for
`conn_read` and `conn_write`.  A call of the two is a whole run of the function over the
system: `conn_read` of `UI/conn.c` may be answered in any way the system may answer it, and
what it has taken from the socket is written down.

`malloc` gives some address that is not in use, and says nothing of what is there.  Memory is
used after it is freed, or freed twice, by a call that is not allowed.  A read that does not
fit its block, and a product that leaves `int`, are not served: nothing is said of what comes
after them.
-/

set_option autoImplicit false

namespace MirrorLink.Program

open MirrorLink.Library

/-- What is called for. -/
inductive VncCall where
  /-- The members of `vnc_session`. -/
  | session
  /-- Assign to members of `vnc_session`, or copy to them. -/
  | assign (f : VncSession → VncSession)
  /-- What a local array of `n` bytes that is not initialized holds. -/
  | indeterminate (n : ℕ)
  /-- A product of `int`s with the mathematical value `n`. -/
  | product (n : ℕ)
  | malloc (n : ℕ)
  | calloc (n : ℕ)
  | free (a : ℕ)
  /-- What a block holds. -/
  | load (a : ℕ)
  /-- `memcpy` to the start of a block. -/
  | memcpy (a : ℕ) (bytes : List UInt8)
  /-- `conn_read` into a local array. -/
  | connRead (buf : List UInt8) (len : UInt32)
  /-- `conn_read` into a block, from an offset on. -/
  | connReadAt (a offset : ℕ) (len : UInt32)
  | connWrite (data : List UInt8)

def VncCall.Answer : VncCall → Type
  | session => VncSession
  | assign _ => Unit
  | indeterminate _ => List UInt8
  | product _ => Unit
  | malloc _ => ℕ
  | calloc _ => ℕ
  | free _ => Unit
  | load _ => List UInt8
  | memcpy _ _ => Unit
  | connRead _ _ => List UInt8
  | connReadAt _ _ _ => Unit
  | connWrite _ => Unit

/-- What has gone over the connection. -/
inductive Traffic where
  /-- `conn_read` was asked for `len` bytes and has taken `bytes`. -/
  | read (len : ℕ) (bytes : List UInt8)
  /-- `conn_write` was given `data`, and `accepted` of it was accepted. -/
  | write (data accepted : List UInt8)
  deriving DecidableEq, Repr

namespace Traffic

/-- What was asked for. -/
def asked : Traffic → ℕ
  | .read len _ => len
  | .write _ _ => 0

/-- What was taken from the socket. -/
def taken : Traffic → List UInt8
  | .read _ bytes => bytes
  | .write _ _ => []

/-- What was to be written. -/
def message : Traffic → Option (List UInt8)
  | .read _ _ => none
  | .write data _ => some data

/-- What has been written. -/
def accepted : Traffic → List UInt8
  | .read _ _ => []
  | .write _ accepted => accepted

/-- A read that has all it was asked for. -/
def Whole : Traffic → Prop
  | .read len bytes => bytes.length = len
  | .write _ _ => True

/-- No more is taken than was asked for, and a beginning of the message is written. -/
def Possible : Traffic → Prop
  | .read len bytes => bytes.length ≤ len
  | .write data accepted => accepted <+: data

end Traffic

/-- What a task works on. -/
@[ext]
structure VncWorld where
  blocks : Blocks (List UInt8)
  session : VncSession
  /-- What has gone over the connection, oldest first. -/
  log : List Traffic

namespace VncWorld

def withBlocks (w : VncWorld) (h : Blocks (List UInt8)) : VncWorld := { w with blocks := h }

def note (w : VncWorld) (e : Traffic) : VncWorld := { w with log := w.log ++ [e] }

@[simp] theorem blocks_withBlocks (w : VncWorld) (h : Blocks (List UInt8)) :
    (w.withBlocks h).blocks = h := rfl

@[simp] theorem session_withBlocks (w : VncWorld) (h : Blocks (List UInt8)) :
    (w.withBlocks h).session = w.session := rfl

@[simp] theorem log_withBlocks (w : VncWorld) (h : Blocks (List UInt8)) :
    (w.withBlocks h).log = w.log := rfl

@[simp] theorem blocks_note (w : VncWorld) (e : Traffic) : (w.note e).blocks = w.blocks := rfl

@[simp] theorem session_note (w : VncWorld) (e : Traffic) : (w.note e).session = w.session := rfl

@[simp] theorem log_note (w : VncWorld) (e : Traffic) : (w.note e).log = w.log ++ [e] := rfl

end VncWorld

/-- `conn_read` of `len` bytes into `buf` can return with `filled` there, having taken `bytes`
from the socket. -/
def ReadRun (fd : ℤ) (buf : List UInt8) (len : UInt32) (bytes filled : List UInt8) : Prop :=
  ∃ locals answers code d, readTransfer.Permitted fd (connReadFrom fd buf len locals) answers ∧
    readTransfer.after fd (connReadFrom fd buf len locals) answers = .returned (.ok (code, d)) ∧
    bytes = (readTransfer.history fd (connReadFrom fd buf len locals) answers).flatMap bytesRead ∧
    filled = d.buf

/-- `conn_write` of `data` can return after `accepted` has been accepted. -/
def WriteRun (fd : ℤ) (data accepted : List UInt8) : Prop :=
  ∃ answers result,
    writeTransfer.Permitted fd (connWriteFrom fd data (UInt32.ofNat data.length)) answers ∧
    writeTransfer.after fd (connWriteFrom fd data (UInt32.ofNat data.length)) answers =
      .returned result ∧
    accepted = (writeTransfer.history fd (connWriteFrom fd data (UInt32.ofNat data.length))
      answers).flatMap bytesWritten

/-- A block is only used while it is allocated. -/
def VncCall.Allowed (w : VncWorld) : VncCall → Prop
  | .free a => w.blocks a ≠ none
  | .load a => w.blocks a ≠ none
  | .memcpy a _ => w.blocks a ≠ none
  | .connReadAt a _ _ => w.blocks a ≠ none
  | _ => True

/-- What may be answered, and what is left behind. -/
def VncCall.Served (fd : ℤ) (w : VncWorld) : (k : VncCall) → k.Answer → VncWorld → Prop
  | .session, members, w' => members = w.session ∧ w' = w
  | .assign f, _, w' => w' = { w with session := f w.session }
  | .indeterminate n, bytes, w' => bytes.length = n ∧ w' = w
  | .product n, _, w' => n < 2 ^ 31 ∧ w' = w
  | .malloc n, a, w' =>
    w.blocks a = none ∧ ∃ bytes : List UInt8, bytes.length = n ∧
      w' = w.withBlocks (w.blocks.alloc a bytes)
  | .calloc n, a, w' =>
    w.blocks a = none ∧ w' = w.withBlocks (w.blocks.alloc a (List.replicate n 0))
  | .free a, _, w' => w' = w.withBlocks (w.blocks.free a)
  | .load a, bytes, w' => w.blocks a = some bytes ∧ w' = w
  | .memcpy a bytes, _, w' =>
    ∃ old, w.blocks a = some old ∧ bytes.length ≤ old.length ∧
      w' = w.withBlocks (w.blocks.alloc a (overlay bytes old))
  | .connRead buf len, filled, w' =>
    ∃ bytes, ReadRun fd buf len bytes filled ∧ w' = w.note (.read len.toNat bytes)
  | .connReadAt a offset len, _, w' =>
    ∃ old bytes filled, w.blocks a = some old ∧ offset + len.toNat ≤ old.length ∧
      ReadRun fd (old.drop offset) len bytes filled ∧
      w' = (w.withBlocks (w.blocks.alloc a (old.take offset ++ filled))).note
        (.read len.toNat bytes)
  | .connWrite data, _, w' =>
    ∃ accepted, WriteRun fd data accepted ∧ w' = w.note (.write data accepted)

/-- The system and the C library, to a task on the socket `fd`. -/
def vncService (fd : ℤ) : Service VncCall VncCall.Answer VncWorld where
  allows w k := k.Allowed w
  serves w k := k.Served fd w

/-- A program of `vnc_session.c`. -/
abbrev VncTask (α : Type) : Type := Interaction VncCall VncCall.Answer α

end MirrorLink.Program
