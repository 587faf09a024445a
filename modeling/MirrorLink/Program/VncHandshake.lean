import MirrorLink.Program.Buffer
import MirrorLink.Program.VncSession
import MirrorLink.Library.Rounds

/-!
# The handshake of `CoreStack/vnc_session.c`

`vnc_session_task` is a handshake of five phases followed by the message loop.  Each phase
below is one block of the function; a phase that can return from the task returns whether
it goes on, and `vncHandshake` whether the message loop is reached.  `TaskReturns` says that
the task comes to an end, in the handshake or in the loop.

The reason length and the security result are used in the byte order of the host, which is
taken to be little-endian (`le32`).
-/

set_option autoImplicit false

namespace MirrorLink.Program

open MirrorLink.Library Effectful

/-- The protocol versions the client accepts, as they are sent. -/
def version37 : List UInt8 := ascii "RFB 003.007\n"

def version38 : List UInt8 := ascii "RFB 003.008\n"

/-- Set Encodings: MirrorLink, ContextInfo, DesktopSize, Run-Length. -/
def setEncodings : List UInt8 :=
  [2, 0, 0, 5, 0xff, 0xff, 0xfd, 0xf3, 0, 0, 0, 0, 0xff, 0xff, 0xfd, 0xf5, 0xff, 0xff, 0xfd,
    0xf4, 0xff, 0xff, 0xff, 0x21]

/-- Protocol Version Handshake: the last digit of the version, if it is accepted. -/
def protocolVersionHandshake : Session (Option UInt8) := do
  let buf ← uninitialised 12
  let buf ← connRead buf 12
  if buf ≠ version37 ∧ buf ≠ version38 then return none
  else do
    connWrite buf
    return some (buf.getD 10 0 - 48)

/-- Read a length in host order and that many bytes of a reason, and drop them. -/
def readReason : Session Unit := do
  let n ← uninitialised 4
  let n ← connRead n 4
  let n := le32 (n.getD 0 0) (n.getD 1 0) (n.getD 2 0) (n.getD 3 0)
  connReadFreed n.toNat n.toNat

/-- The loop over the security types. -/
def securityFlag (buf : List UInt8) : UInt8 :=
  buf.foldl (fun flag b => if b = 1 then 1 else flag) 0

/-- Security Handshake -/
def securityHandshake : Session Bool := do
  let num ← connRead [0] 1
  let num := num.getD 0 0
  if num = 0 then do
    readReason
    return false
  else do
    let buf ← uninitialised num.toNat
    let buf ← connRead buf num.toNat
    if securityFlag buf ≠ 0 then do
      connWrite [securityFlag buf]
      return true
    else return false

/-- Security Result Handshake -/
def securityResultHandshake (version : UInt8) : Session Bool :=
  if version = 8 then do
    let r ← uninitialised 4
    let r ← connRead r 4
    let r := le32 (r.getD 0 0) (r.getD 1 0) (r.getD 2 0) (r.getD 3 0)
    if r = 1 then do
      readReason
      return false
    else if r ≠ 0 then return false
    else return true
  else return true

/-- Initialization Messages -/
def initializationMessages : Session Unit := do
  connWrite [0]
  let read ← connRead (Buffer.init 24).buf 24
  -- `buf.len += 24`: all of the buffer is in use
  let buf := Buffer.full read
  let len := be32 (buf.buf.getD 20 0) (buf.buf.getD 21 0) (buf.buf.getD 22 0) (buf.buf.getD 23 0)
  let buf := buf.append len.toNat
  let _name ← connRead (buf.buf.drop 24) len.toNat
  modifySession fun s => { s with
    rfbWidth := be16 (buf.buf.getD 0 0) (buf.buf.getD 1 0)
    rfbHeight := be16 (buf.buf.getD 2 0) (buf.buf.getD 3 0) }

/-- `vnc_session_task` up to the message loop; false if it has returned. -/
def vncHandshake : Session Bool := do
  modifySession fun s => { s with status := 0 }
  match ← protocolVersionHandshake with
  | none => return false
  | some version => do
    if ← securityHandshake then do
      if ← securityResultHandshake version then do
        initializationMessages
        connWrite setEncodings
        return true
      else return false
    else return false

/-- `vnc_session_task` returns. -/
def TaskReturns (c : Client) : Prop :=
  (vncHandshake.run c).val = false ∨ Returns vncSessionDoworks (vncHandshake.run c).state

end MirrorLink.Program
