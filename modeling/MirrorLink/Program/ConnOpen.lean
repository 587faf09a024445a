import MirrorLink.Program.Transfer

/-!
# Opening a connection: `conn_open` of `UI/conn.c`

`conn_open` starts to connect a socket that does not block, and waits in `select` until it is
writable.  A `connect` that is interrupted jumps to the `select` as well, past the lines that
prepare its sets and its timeout.

Every way to fail ends at the label that closes the socket.
-/

set_option autoImplicit false

namespace MirrorLink.Program

open MirrorLink.Library

/-- Where `conn_open` waits. -/
inductive OpenWaits where
  | inSocket
  | inConnect (fd : ℤ)
  | inSelect (fd : ℤ) (locals : Locals)
  | inGetsockopt (fd : ℤ)
  | inClose (fd : ℤ)

/-- The label `fail_ret`. -/
def failRet (fd : ℤ) : Point OpenWaits ℤ := .waiting (.inClose fd)

/-- `for (i = 0; i < ret; i++)`, with the number of turns that are left. -/
def openFor (fd : ℤ) (locals : Locals) : ℕ → Point OpenWaits ℤ
  | 0 => failRet fd
  | turns + 1 =>
    if fd ∈ locals.efds then failRet fd
    else if fd ∈ locals.fds then .waiting (.inGetsockopt fd)
    else openFor fd locals turns

/-- What follows `select`. -/
def openSelected (fd : ℤ) (locals : Locals) : Selected → Point OpenWaits ℤ
  | .failed errno => if errno = .intr then .waiting (.inSelect fd locals) else failRet fd
  | .ready _ writable exceptional =>
    let fds := locals.fds ∩ writable
    let efds := locals.efds ∩ exceptional
    let ret := fds.card + efds.card
    if ret = 0 then failRet fd
    else openFor fd { locals with fds := fds, efds := efds } ret

/-- What follows `connect`. -/
def openConnected (locals : Locals) (fd : ℤ) : Option Errno → Point OpenWaits ℤ
  | none => .returned fd
  | some .inProgress => .waiting (.inSelect fd
      { fds := insert fd (fdZero locals.fds)
        efds := insert fd (fdZero locals.efds)
        tv := ⟨2, 0⟩ })
  | some .intr => .waiting (.inSelect fd locals)
  | some _ => failRet fd

def openCall (ip : List UInt8) (port : UInt16) : OpenWaits → SysCall
  | .inSocket => .socket
  | .inConnect fd => .connect fd ip port
  | .inSelect fd locals =>
    .select (fd + 1) none (some locals.fds) (some locals.efds) (some locals.tv)
  | .inGetsockopt fd => .getsockopt fd
  | .inClose fd => .close fd

/-- What an answer leads to, with local variables that hold `locals` when the function is
called; an answer that is not to the call is not heard. -/
def openStep (locals : Locals) : OpenWaits → SysAnswer → Point OpenWaits ℤ
  | .inSocket, .socket none => .returned (-1)
  | .inSocket, .socket (some fd) => .waiting (.inConnect fd)
  | .inConnect fd, .connect failure => openConnected locals fd failure
  | .inSelect fd ls, .select selected left => openSelected fd { ls with tv := left } selected
  | .inGetsockopt fd, .getsockopt val => if val = some 0 then .returned fd else failRet fd
  | .inClose _, .closed => .returned (-1)
  | w, _ => .waiting w

/-- Where `conn_open` begins. -/
def connOpenStart : Point OpenWaits ℤ := .waiting .inSocket

end MirrorLink.Program
