import MirrorLink.Program.Buffer

/-!
# Reading all there is: `conn_read_all` of `UI/conn.c`

`conn_read_all` waits in `select` until its socket is ready and then reads 1024 bytes at a
time until `read` would block or the connection has been closed.  It makes room before every
`read`, but not again when a signal has interrupted one.

What the system answers is a list, one answer for each call of `select` and `read`.
-/

set_option autoImplicit false

namespace MirrorLink.Program

/-- What one `read` of 1024 bytes delivers. -/
structure ReadData where
  bytes : List UInt8
  ne_nil : bytes ≠ []
  length_le : bytes.length ≤ 1024

/-- How `select` returns: with the readable and the exceptional sockets left in the sets, or
with -1. -/
inductive SelectAnswer where
  | ready (readable exceptional : Bool)
  | interrupted
  | failed

/-- How `read` returns. -/
inductive ReadAnswer where
  | data (piece : ReadData)
  | endOfFile
  /-- `EAGAIN` or `EWOULDBLOCK` -/
  | wouldBlock
  /-- `EINTR` -/
  | interrupted
  | failed

inductive Answer where
  | select (answer : SelectAnswer)
  | read (answer : ReadAnswer)

/-- Where `conn_read_all` stands: before `select`, with its socket in the sets or not, or
before `read`. -/
inductive ConnPhase where
  | selecting (readable exceptional : Bool)
  | reading

/-- `conn_read_all` from a phase on: its code and the buffer.  Nothing if it does not return
with these answers, or stores outside the buffer. -/
def connReadAll : ConnPhase → Buffer → List Answer → Option (ℤ × Buffer)
  | .selecting inRfds inEfds, b, .select (.ready readable exceptional) :: answers =>
    let rfds := inRfds && readable
    let efds := inEfds && exceptional
    if !rfds && !efds then some (-2, b)
    else if efds then some (-1, b)
    else connReadAll .reading (b.append 1024) answers
  | .selecting inRfds inEfds, b, .select .interrupted :: answers =>
    connReadAll (.selecting inRfds inEfds) b answers
  | .selecting _ _, b, .select .failed :: _ => some (-1, b)
  | .reading, b, .read (.data piece) :: answers =>
    match b.fill piece.bytes with
    | some b => connReadAll .reading (b.append 1024) answers
    | none => none
  | .reading, b, .read .endOfFile :: _ => some (-3, b)
  | .reading, b, .read .wouldBlock :: _ => some (0, b)
  | .reading, b, .read .interrupted :: answers => connReadAll .reading b answers
  | .reading, b, .read .failed :: answers => connReadAll (.selecting true false) b answers
  | .selecting _ _, _, .read _ :: _ => none
  | .reading, _, .select _ :: _ => none
  | _, _, [] => none

end MirrorLink.Program
