import MirrorLink.Library.Rounds
import MirrorLink.Program.Conn
import MirrorLink.Program.Session
import MirrorLink.Program.Ssdp

/-!
# The discovery thread: `UPnPThread::run` of `UI/main.cpp`

The thread opens a search socket for every interface of the tethering network that is up,
and then runs its loop for ever.  One pass of the loop waits in `select`, opens a search
socket for every new address, reads every client whose socket is ready and hands what it
finds in the buffer to `handle_ssdp_resp`, and then looks whether to fetch the list of
applications.

What the system does is a parameter: a `Pass` says what one pass of the loop meets.  The
socket that joins the multicast group is only printed from and is left out.
-/

set_option autoImplicit false

namespace MirrorLink.Program

open MirrorLink.Library Effectful

/-! ## What the system does -/

/-- How the socket calls of one `open_ssdp` end. -/
inductive Opening where
  /-- `socket` or `setsockopt` fails and the process exits. -/
  | exited
  /-- `bind` fails. -/
  | bindFailed
  | opened (sockFd : ℤ)
  deriving DecidableEq, Repr

/-- An interface `getifaddrs` lists: its address as `inet_ntoa` prints it, and how
`open_ssdp` would end there. -/
structure Interface where
  address : List UInt8
  opening : Opening

/-- How the `read` of a ready client ends. -/
inductive Receipt where
  | data (datagram : ReadData)
  /-- `read` returns 0. -/
  | empty
  /-- `read` returns -1. -/
  | failed

/-- How `remote_server_create` ends. -/
inductive Creation where
  | neverReturns
  | failed
  | created

/-- What one pass of the loop meets. -/
structure Pass where
  /-- The new addresses, if the netlink socket is ready. -/
  netlink : List Opening
  /-- How the read of a client ends, if its socket is ready. -/
  ready : ℤ → Option Receipt
  /-- The array `buffer` before the read of a client. -/
  stack : ℤ → Block 1025
  creation : Creation
  /-- Whether `remote_server_get_application_list` returns. -/
  listReturns : Bool

/-! ## What the thread does -/

/-- What the thread does to its surroundings, one operation each. -/
inductive UpnpEffect where
  | sent (sockFd : ℤ) (message : List UInt8)
  | received (sockFd : ℤ) (bytes : List UInt8)
  | closed (sockFd : ℤ)
  /-- `remote_server_create` is called for the server at `url`. -/
  | createServer (url : List UInt8)
  /-- `remote_server_get_application_list` is called. -/
  | getApplicationList
  deriving DecidableEq, Repr

/-- The thread: its context, and the number of passes it has begun. -/
structure Thread where
  context : Context
  passes : ℕ
  deriving DecidableEq, Repr

abbrev Upnp (α : Type) : Type := Effectful Thread UpnpEffect α

/-- Change the context. -/
def modifyContext (f : Context → Context) : Upnp Unit :=
  modify fun t => { t with context := f t.context }

/-- `open_ssdp`; `false` when the process has exited. -/
def openSsdp : Opening → Upnp Bool
  | .exited => pure false
  | .bindFailed => pure true
  | .opened fd => do
    emit (.sent fd (createSsdpMessage tmTas))
    emit (.sent fd (createSsdpMessage tmTcp))
    emit (.sent fd (createSsdpMessage tmTsd))
    modifyContext (·.addClient fd)
    pure true

/-- `open_ssdp` once for each of several addresses. -/
def openAll : List Opening → Upnp Bool
  | [] => pure true
  | o :: os => do
    let running ← openSsdp o
    if running then openAll os else pure false

/-- `strncmp(ip_addr, "192.168.42.", 11) == 0` -/
def isTethered (i : Interface) : Bool := i.address.take 11 = ascii "192.168.42."

/-- The search sockets opened before the loop begins. -/
def startupOpenings (interfaces : List Interface) : List Opening :=
  (interfaces.filter isTethered).map Interface.opening

/-- The loop over the interfaces, before the main loop. -/
def startup (interfaces : List Interface) : Upnp Bool := openAll (startupOpenings interfaces)

/-- What is done for a client whose socket is ready.  The result of `read` is only compared
with 0, so that a failed one has the buffer handled as the stack left it; nothing ends the
datagram either, and the text goes on with what was behind it. -/
def handleReady (p : Pass) (fd : ℤ) : Receipt → Upnp Unit
  | .data datagram => do
    emit (.received fd datagram.bytes)
    modifyContext (handleSsdpResp · (cstring (overlay datagram.bytes (p.stack fd).val)))
  | .empty => do
    emit (.closed fd)
    modifyContext (·.eraseClient fd)
  | .failed => modifyContext (handleSsdpResp · (cstring (p.stack fd).val))

/-- The body of the loop over the clients: `FD_ISSET` and what follows it. -/
def readClient (p : Pass) (watched : List ℤ) (fd : ℤ) : Upnp Unit :=
  match if fd ∈ watched then p.ready fd else none with
  | some receipt => handleReady p fd receipt
  | none => pure ()

/-- The loop over the clients.  A removed client's `next` is read after it has been freed, and is
taken to be intact here; `LinkedThread` has the nodes themselves, and goes wrong there. -/
def readClients (p : Pass) (watched : List ℤ) : List ℤ → Upnp Unit
  | [] => pure ()
  | fd :: clients => do
    readClient p watched fd
    readClients p watched clients

/-- `context->member != 0` for a member that is an array: its address, which is not null. -/
def arrayNonNull (_ : List UInt8) : Bool := true

/-- The server, created if there is none. -/
def remoteServer (p : Pass) (context : Context) : Upnp Creation :=
  if context.mServer then pure .created
  else do
    emit (.createServer context.tmApplicationServer)
    pure p.creation

/-- `context->serverState = 1` -/
def serve : Upnp Bool := do
  modifyContext fun c => { c with serverState := 1 }
  pure true

/-- What follows the creation; `false` when a call does not return. -/
def useServer (p : Pass) : Creation → Upnp Bool
  | .neverReturns => pure false
  | .failed => serve
  | .created => do
    modifyContext fun c => { c with mServer := true }
    emit .getApplicationList
    if p.listReturns then serve else pure false

/-- What follows the loop over the clients: fetch the list of applications, once. -/
def getAppList (p : Pass) : Upnp Bool := do
  let context ← gets Thread.context
  if context.serverState = 0 ∧ arrayNonNull context.tmApplicationServer ∧
      arrayNonNull context.tmClientProfile ∧ arrayNonNull context.tmServerDevice then
    let creation ← remoteServer p context
    useServer p creation
  else pure true

/-- One pass of the loop; `false` when the thread does nothing any more. -/
def upnpPass (world : ℕ → Pass) : Upnp Bool := do
  let t ← gets id
  let p := world t.passes
  modify fun t => { t with passes := t.passes + 1 }
  let watched := t.context.remoteClients
  let running ← openAll p.netlink
  if running then
    let context ← gets Thread.context
    readClients p watched context.remoteClients
    getAppList p
  else pure false

/-- The thread after its startup and at most `n` passes of its loop. -/
def runAfter (interfaces : List Interface) (world : ℕ → Pass) (n : ℕ) :
    Progress Thread UpnpEffect :=
  let o := (startup interfaces).run ⟨Context.zero, 0⟩
  if o.val then
    let p := rounds (upnpPass world) o.state n
    ⟨p.state, o.effects ++ p.effects, p.running⟩
  else ⟨o.state, o.effects, false⟩

end MirrorLink.Program
