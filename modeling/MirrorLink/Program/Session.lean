import MirrorLink.Library.Bytes
import MirrorLink.Library.Effectful

/-!
# The client's side of a VNC connection: its data and its primitive operations

A `Client` is what `vnc_session.c` computes with: the members of `vnc_session` it uses,
the bytes the server has sent and no `conn_read` has taken yet, the way reads fail once
those have run out, and the indeterminate contents of uninitialised memory.

`connRead` is the contract of `conn_read`: it moves the next `len` bytes of the stream to
the start of the destination and returns 0, or moves the bytes there are and returns a
negative code.  The session ignores the code; it is recorded in the `Effect` of the read,
with the capacity of the destination, so that both can be spoken about.

The members `sdinfo` and `seinfo` are packed and lie one after the other, followed by
`status`: a copy that runs over the end of the one lands in the next
(`VncSession.copySdinfo`, `VncSession.copySeinfo`).
-/

set_option autoImplicit false

namespace MirrorLink.Program

open MirrorLink.Library

/-! ## Blocks of memory -/

/-- A block of exactly `n` bytes. -/
def Block (n : ℕ) : Type := {bytes : List UInt8 // bytes.length = n}

namespace Block

variable {n : ℕ}

@[simp] theorem length_val (b : Block n) : b.val.length = n := b.property

/-- Store bytes at the start of a block; those that do not fit go elsewhere. -/
def store (b : Block n) (src : List UInt8) : Block n :=
  ⟨overlay (src.take n) b.val, by
    rw [length_overlay _ _ (by simp [b.property])]
    exact b.property⟩

/-- A block of zero bytes. -/
def zero (n : ℕ) : Block n := ⟨List.replicate n 0, by simp⟩

theorem val_store (b : Block n) (src : List UInt8) :
    (b.store src).val = overlay (src.take n) b.val := rfl

theorem val_zero (n : ℕ) : (zero n).val = List.replicate n 0 := rfl

@[simp] theorem store_nil (b : Block n) : b.store [] = b := by
  apply Subtype.ext
  simp [store]

end Block

/-! ## The session -/

/-- The members of `vnc_session` that hold the state of the protocol. -/
structure VncSession where
  rfbWidth : UInt16
  rfbHeight : UInt16
  sdinfo : Block 12
  seinfo : Block 28
  status : UInt8

namespace VncSession

/-- `memcpy(&(session->sdinfo), buf, len)`: bytes past the twelfth land in `seinfo`, and
the byte after those in `status`. -/
def copySdinfo (s : VncSession) (buf : List UInt8) : VncSession :=
  { s with
    sdinfo := s.sdinfo.store buf
    seinfo := s.seinfo.store (buf.drop 12)
    status := (buf.drop 40).headD s.status }

/-- `memcpy(&(session->seinfo), buf, len)`: the byte past the twenty-eighth lands in
`status`. -/
def copySeinfo (s : VncSession) (buf : List UInt8) : VncSession :=
  { s with
    seinfo := s.seinfo.store buf
    status := (buf.drop 28).headD s.status }

end VncSession

/-! ## The connection -/

/-- How `conn_read` gives up. -/
inductive ReadFailure where
  | error
  | timeout
  | endOfFile
  deriving DecidableEq, Repr

/-- The code `conn_read` returns when it gives up. -/
def ReadFailure.code : ReadFailure → ℤ
  | .error => -1
  | .timeout => -2
  | .endOfFile => -3

theorem ReadFailure.code_neg (f : ReadFailure) : f.code < 0 := by
  cases f <;> decide

/-- What a session does to its connection and to memory, one operation each. -/
inductive Effect where
  /-- `conn_read` of `len` bytes into a destination of `capacity` bytes returned `code`. -/
  | read (capacity len : ℕ) (code : ℤ)
  /-- `memcpy` of `len` bytes into a member of `capacity` bytes. -/
  | copy (capacity len : ℕ)
  /-- `conn_write` of `data`. -/
  | write (data : List UInt8)
  /-- A product of two `int`s left the range of `int`. -/
  | signedOverflow
  deriving DecidableEq, Repr

/-- The message an effect hands to `conn_write`, if it is a write. -/
def Effect.written : Effect → Option (List UInt8)
  | .write data => some data
  | _ => none

/-- The messages written, oldest first. -/
def writes (es : List Effect) : List (List UInt8) := es.filterMap Effect.written

@[simp] theorem writes_nil : writes [] = [] := rfl

@[simp] theorem writes_append (es fs : List Effect) :
    writes (es ++ fs) = writes es ++ writes fs := by
  simp [writes]

@[simp] theorem writes_read (capacity len : ℕ) (code : ℤ) (es : List Effect) :
    writes (.read capacity len code :: es) = writes es := rfl

@[simp] theorem writes_copy (capacity len : ℕ) (es : List Effect) :
    writes (.copy capacity len :: es) = writes es := rfl

@[simp] theorem writes_write (data : List UInt8) (es : List Effect) :
    writes (.write data :: es) = data :: writes es := rfl

@[simp] theorem writes_signedOverflow (es : List Effect) :
    writes (.signedOverflow :: es) = writes es := rfl

/-- Whether an effect is anything but a read that came up short. -/
def Effect.completed : Effect → Bool
  | .read _ _ code => code == 0
  | _ => true

/-- All reads completed. -/
def Complete (es : List Effect) : Prop := ∀ e ∈ es, e.completed = true

instance (es : List Effect) : Decidable (Complete es) := by
  unfold Complete
  infer_instance

@[simp] theorem complete_append (es fs : List Effect) :
    Complete (es ++ fs) ↔ Complete es ∧ Complete fs := by
  simp [Complete, or_imp, forall_and]

@[simp] theorem complete_nil : Complete [] := by
  simp [Complete]

@[simp] theorem complete_read (capacity len : ℕ) (code : ℤ) (es : List Effect) :
    Complete (.read capacity len code :: es) ↔ code = 0 ∧ Complete es := by
  simp [Complete, Effect.completed]

@[simp] theorem complete_copy (capacity len : ℕ) (es : List Effect) :
    Complete (.copy capacity len :: es) ↔ Complete es := by
  simp [Complete, Effect.completed]

@[simp] theorem complete_write (data : List UInt8) (es : List Effect) :
    Complete (.write data :: es) ↔ Complete es := by
  simp [Complete, Effect.completed]

@[simp] theorem complete_signedOverflow (es : List Effect) :
    Complete (.signedOverflow :: es) ↔ Complete es := by
  simp [Complete, Effect.completed]

/-- The client: its session, the stream from the server and the contents of memory that
nobody initialised. -/
structure Client where
  session : VncSession
  /-- The bytes the server has sent that no `conn_read` has taken yet. -/
  unread : List UInt8
  /-- How reads fail once `unread` has run out. -/
  failure : ReadFailure
  /-- What uninitialised objects hold, in the order in which they come into being. -/
  residue : ℕ → UInt8

/-- A computation of the client. -/
abbrev Session (α : Type) : Type := Effectful Client Effect α

namespace Client

/-- The client after the next `n` bytes of the stream have been taken. -/
def skip (c : Client) (n : ℕ) : Client := { c with unread := c.unread.drop n }

/-- The client after an object of `n` bytes has come into being uninitialised. -/
def draw (c : Client) (n : ℕ) : Client := { c with residue := fun k => c.residue (n + k) }

/-- What an uninitialised object of `n` bytes holds. -/
def indeterminate (c : Client) (n : ℕ) : List UInt8 := (List.range n).map c.residue

/-- What `conn_read` returns for `n` bytes. -/
def readCode (c : Client) (n : ℕ) : ℤ := if n ≤ c.unread.length then 0 else c.failure.code

@[simp] theorem session_skip (c : Client) (n : ℕ) : (c.skip n).session = c.session := rfl
@[simp] theorem unread_skip (c : Client) (n : ℕ) : (c.skip n).unread = c.unread.drop n := rfl
@[simp] theorem failure_skip (c : Client) (n : ℕ) : (c.skip n).failure = c.failure := rfl
@[simp] theorem residue_skip (c : Client) (n : ℕ) : (c.skip n).residue = c.residue := rfl

@[simp] theorem session_draw (c : Client) (n : ℕ) : (c.draw n).session = c.session := rfl
@[simp] theorem unread_draw (c : Client) (n : ℕ) : (c.draw n).unread = c.unread := rfl
@[simp] theorem failure_draw (c : Client) (n : ℕ) : (c.draw n).failure = c.failure := rfl

@[simp] theorem length_indeterminate (c : Client) (n : ℕ) :
    (c.indeterminate n).length = n := by
  simp [indeterminate]

@[simp] theorem skip_skip (c : Client) (m n : ℕ) : (c.skip m).skip n = c.skip (m + n) := by
  simp [skip, List.drop_drop]

theorem skip_append (c : Client) {bytes more : List UInt8} {n : ℕ} (hu : c.unread = bytes ++ more)
    (hn : bytes.length = n) : c.skip n = { c with unread := more } := by
  rw [skip, hu, ← hn, List.drop_left]

/-- A read returns 0 exactly when all the bytes it asks for are there. -/
theorem readCode_eq_zero_iff (c : Client) (n : ℕ) :
    c.readCode n = 0 ↔ n ≤ c.unread.length := by
  unfold readCode
  split
  · simpa
  · rename_i h
    have := c.failure.code_neg
    exact ⟨fun h0 => absurd h0 (by omega), fun h' => absurd h' h⟩

end Client

/-! ## Primitive operations -/

/-- `conn_read(session->fd, buf, len)`: the destination holds `buf` before, and what is
returned after. -/
def connRead (buf : List UInt8) (len : ℕ) : Session (List UInt8) :=
  ⟨fun c => ⟨overlay (c.unread.take len) buf, c.skip len,
    [.read buf.length len (c.readCode len)]⟩⟩

/-- `conn_read` of `len` bytes into a fresh block of `capacity` bytes that is freed
without being looked at. -/
def connReadFreed (capacity len : ℕ) : Session Unit :=
  ⟨fun c => ⟨(), c.skip len, [.read capacity len (c.readCode len)]⟩⟩

/-- `conn_write(session->fd, data, sizeof(data))` -/
def connWrite (data : List UInt8) : Session Unit := Effectful.emit (.write data)

/-- `memcpy` of `buf` into a member of `capacity` bytes, with its effect on the session. -/
def memcpyMember (capacity : ℕ) (buf : List UInt8)
    (copy : VncSession → List UInt8 → VncSession) : Session Unit :=
  ⟨fun c => ⟨(), { c with session := copy c.session buf }, [.copy capacity buf.length]⟩⟩

/-- The contents of an uninitialised object of `n` bytes. -/
def uninitialised (n : ℕ) : Session (List UInt8) :=
  ⟨fun c => ⟨c.indeterminate n, c.draw n, []⟩⟩

/-- Assign to members of the session. -/
def modifySession (f : VncSession → VncSession) : Session Unit :=
  Effectful.modify fun c => { c with session := f c.session }

@[simp] theorem run_connRead (buf : List UInt8) (len : ℕ) (c : Client) :
    (connRead buf len).run c = ⟨overlay (c.unread.take len) buf, c.skip len,
      [.read buf.length len (c.readCode len)]⟩ := rfl

/-- A read of bytes that have all come. -/
theorem run_connRead_append (c : Client) (buf : List UInt8) {bytes more : List UInt8} {n : ℕ}
    (hu : c.unread = bytes ++ more) (hn : bytes.length = n) (hbuf : buf.length ≤ n) :
    (connRead buf n).run c = ⟨bytes, { c with unread := more }, [.read buf.length n 0]⟩ := by
  have hcode : c.readCode n = 0 := by
    rw [Client.readCode_eq_zero_iff, hu, List.length_append]
    omega
  rw [run_connRead, c.skip_append hu hn, hcode, hu, ← hn, List.take_left,
    overlay_of_length_le _ _ (by omega)]

@[simp] theorem run_connReadFreed (capacity len : ℕ) (c : Client) :
    (connReadFreed capacity len).run c =
      ⟨(), c.skip len, [.read capacity len (c.readCode len)]⟩ := rfl

@[simp] theorem run_connWrite (data : List UInt8) (c : Client) :
    (connWrite data).run c = ⟨(), c, [.write data]⟩ := rfl

@[simp] theorem run_memcpyMember (capacity : ℕ) (buf : List UInt8)
    (copy : VncSession → List UInt8 → VncSession) (c : Client) :
    (memcpyMember capacity buf copy).run c =
      ⟨(), { c with session := copy c.session buf }, [.copy capacity buf.length]⟩ := rfl

@[simp] theorem run_uninitialised (n : ℕ) (c : Client) :
    (uninitialised n).run c = ⟨c.indeterminate n, c.draw n, []⟩ := rfl

theorem run_uninitialised_bind {α : Type} (n : ℕ) (f : List UInt8 → Session α) (c : Client) :
    (uninitialised n >>= f).run c = (f (c.indeterminate n)).run (c.draw n) := rfl

@[simp] theorem run_modifySession (f : VncSession → VncSession) (c : Client) :
    (modifySession f).run c = ⟨(), { c with session := f c.session }, []⟩ := rfl

end MirrorLink.Program
