import Mathlib.Data.Finset.Card
import MirrorLink.Library.Dialogue

/-!
# What the socket code calls for

The functions of `UI/conn.c` wait for the system in `select`, in `read` and `write`, and
while they open and close a socket.  A `SysCall` is one such call with what is passed to it,
a `SysAnswer` is how it comes back, and `SysCall.Allows` says which answers the system may
give to a call: a transfer moves at least one byte and no more than were asked for, and never
more than 0x7ffff000, so that the number fits the `int` it is stored in.

`select` leaves the sets as they are if it fails, and otherwise flags some of the descriptors
it was given.  Its timeout, if there is one, is left with the time that was not slept.
-/

set_option autoImplicit false

namespace MirrorLink.Program

open MirrorLink.Library

/-- `fd_set` -/
abbrev FdSet : Type := Finset ℤ

/-- `FD_ZERO`, whatever the set held before. -/
def fdZero (_ : FdSet) : FdSet := ∅

structure Timeval where
  tvSec : ℤ
  tvUsec : ℤ
  deriving DecidableEq, Repr

/-- `errno` after a call that returned -1. -/
inductive Errno where
  /-- `EAGAIN`, which is `EWOULDBLOCK` -/
  | again
  /-- `EINTR` -/
  | intr
  /-- `EINPROGRESS` -/
  | inProgress
  | other (code : ℕ)
  deriving DecidableEq, Repr

/-- What one `read` delivers. -/
structure Piece where
  bytes : List UInt8
  ne_nil : bytes ≠ []
  length_le : bytes.length ≤ 0x7ffff000

/-- How many bytes one `write` accepts. -/
structure Accepted where
  count : ℕ
  pos : 0 < count
  count_le : count ≤ 0x7ffff000

inductive SysCall where
  | socket
  | connect (fd : ℤ) (ip : List UInt8) (port : UInt16)
  | select (nfds : ℤ) (readfds writefds exceptfds : Option FdSet) (timeout : Option Timeval)
  | getsockopt (fd : ℤ)
  /-- `read` of at most `count` bytes to `buf + offset` -/
  | read (fd : ℤ) (offset count : ℕ)
  | write (fd : ℤ) (bytes : List UInt8)
  | close (fd : ℤ)
  deriving DecidableEq

inductive Selected where
  /-- What is ready, of the descriptors in each set. -/
  | ready (readable writable exceptional : FdSet)
  | failed (errno : Errno)

inductive SysAnswer where
  /-- The new descriptor, or nothing for -1. -/
  | socket (fd : Option ℤ)
  /-- Nothing for success. -/
  | connect (failure : Option Errno)
  | select (selected : Selected) (left : Timeval)
  /-- The value of `SO_ERROR`, or nothing for -1. -/
  | getsockopt (val : Option UInt32)
  | data (piece : Piece)
  /-- `read` returns 0. -/
  | endOfFile
  | accepted (accepted : Accepted)
  /-- `read` or `write` returns -1. -/
  | failed (errno : Errno)
  | closed

/-- The answers the system may give to a call. -/
def SysCall.Allows : SysCall → SysAnswer → Prop
  | .socket, .socket fd => ∀ n ∈ fd, 0 ≤ n
  | .connect _ _ _, .connect _ => True
  | .select _ _ _ _ _, .select _ _ => True
  | .getsockopt _, .getsockopt _ => True
  | .read _ _ count, .data piece => piece.bytes.length ≤ count
  | .read _ _ _, .endOfFile => True
  | .read _ _ _, .failed _ => True
  | .write _ bytes, .accepted accepted => accepted.count ≤ bytes.length
  | .write _ _, .failed _ => True
  | .close _, .closed => True
  | _, _ => False

/-- The bytes a `read` has taken from the stream. -/
def bytesRead : SysCall × SysAnswer → List UInt8
  | (.read _ _ _, .data piece) => piece.bytes
  | _ => []

/-- The bytes a `write` has added to the stream. -/
def bytesWritten : SysCall × SysAnswer → List UInt8
  | (.write _ bytes, .accepted accepted) => bytes.take accepted.count
  | _ => []

end MirrorLink.Program
