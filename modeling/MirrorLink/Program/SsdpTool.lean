import MirrorLink.Library.Heap
import MirrorLink.Program.Conn
import MirrorLink.Program.Ssdp

/-!
# `SSDP/ssdp.c`

A program of its own that searches for the three services once, over `usb0`, and prints the
answers it gets in five turns.  It has a copy of what `UI/ssdp.cpp` does, which looks at the
target when it comes to an `ST` line and not when it has read them all.

The array a datagram is read into is full of zeros before, and has no byte more than a datagram
may have.
-/

set_option autoImplicit false

namespace MirrorLink.Program

open MirrorLink.Library

/-- `create_ssdp` -/
def createSsdp (searchTarget : List UInt8) : List UInt8 :=
  ascii "M-SEARCH * HTTP/1.1\r\n" ++ ascii "HOST: 239.255.255.250:1900\r\n" ++
    ascii "MAN: \"ssdp:discover\"\r\n" ++ ascii "MX: 1\r\n" ++
    (ascii "ST: " ++ searchTarget ++ ascii "\r\n") ++ ascii "\r\n"

/-- The locals of `handle_ssdp`. -/
structure ToolResp extends SsdpResp where
  found : Bool
  deriving DecidableEq, Repr

/-- One turn of the loop over the lines. -/
def toolLine (resp : ToolResp) (line : List UInt8) : ToolResp :=
  if (strstr (ascii "ST: ") line).isSome then
    let st := scanWord "ST: %s" line resp.st
    { resp with st := st, found := if st = tmTas then true else resp.found }
  else if (strstr (ascii "Location: ") line).isSome then
    { resp with location := scanWord "Location: %s" line resp.location }
  else resp

/-- `handle_ssdp`: the words it prints, if it prints any. -/
def handleSsdp (buffer : List UInt8) : Option SsdpResp :=
  let resp := (tokens 10 buffer).foldl toolLine ⟨⟨[], []⟩, false⟩
  if resp.found then some resp.toSsdpResp else none

/-- What the program does, one operation each. -/
inductive ToolEffect where
  | sent (message : List UInt8)
  /-- `perror("recvfrom")` -/
  | receivedNothing
  | printedMessage (message : List UInt8)
  | printedResp (resp : SsdpResp)
  deriving DecidableEq, Repr

/-- `message` after `recvfrom` -/
def toolMessage (datagram : ReadData) : List UInt8 :=
  overlay datagram.bytes (List.replicate 1024 0)

/-- One turn of the loop in `main`; nothing is received by `recvfrom` when it returns 0 or -1. -/
def toolTurn : Option ReadData → Except Fault (List ToolEffect)
  | none => pure [.receivedNothing]
  | some datagram =>
    let message := toolMessage datagram
    if 0 ∈ message then
      pure (.printedMessage (cstring message) ::
        (handleSsdp (cstring message)).toList.map .printedResp)
    else throw .outsideArray

/-- `while (wait --> 0)` -/
def toolLoop (recvfrom : ℕ → Option ReadData) : ℕ → Except Fault (List ToolEffect)
  | 0 => pure []
  | wait + 1 => do
    let effects ← toolTurn (recvfrom wait)
    let rest ← toolLoop recvfrom wait
    pure (effects ++ rest)

/-- `main`, with how `recvfrom` ends when `wait` is a number; it exits when its socket cannot be
set up. -/
def ssdpMain (socket : Bool) (recvfrom : ℕ → Option ReadData) : Except Fault (List ToolEffect) :=
  if socket then do
    let effects ← toolLoop recvfrom 5
    pure ([.sent (createSsdp tmTas), .sent (createSsdp tmTcp), .sent (createSsdp tmTsd)] ++ effects)
  else pure []

end MirrorLink.Program
