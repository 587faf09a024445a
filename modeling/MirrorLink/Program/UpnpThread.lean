import MirrorLink.Program.RemoteClients
import MirrorLink.Program.Upnp

/-!
# `UPnPThread::run` of `UI/main.cpp`, with its chain of clients

The passes of `Upnp`, here over the chain of `RemoteClient` nodes and over the set of descriptors
that is handed to `select`.  A descriptor set has `FD_SETSIZE` bits: `FD_SET` and `FD_ISSET` look
at no others.  The sockets of the netlink and of the multicast group are -1 if they could not be
opened, and are used all the same.

`calloc` is a parameter that sees what is allocated.
-/

set_option autoImplicit false

namespace MirrorLink.Program

open MirrorLink.Library

/-! ## Descriptor sets -/

/-- The bit of a descriptor is in the set: there are `FD_SETSIZE` of them. -/
def InFdSet (fd : ℤ) : Prop := 0 ≤ fd ∧ fd < 1024

instance (fd : ℤ) : Decidable (InFdSet fd) := inferInstanceAs (Decidable (_ ∧ _))

/-- The index of `FD_SET` and `FD_ISSET`. -/
def fdIndex (fd : ℤ) : Except Fault Unit :=
  if InFdSet fd then pure () else throw .outsideArray

/-- `readfds` and `max_fd`, before `select` -/
structure Watch where
  readfds : List ℤ
  maxFd : ℤ
  deriving DecidableEq, Repr

/-- `FD_SET(fd, &readfds)` and the comparison with `max_fd` -/
def Watch.add (w : Watch) (fd : ℤ) : Except Fault Watch := do
  fdIndex fd
  pure ⟨w.readfds ++ [fd], if fd > w.maxFd then fd else w.maxFd⟩

/-- The two sockets of the thread. -/
def watchSockets (netlinkSocket multicastSocket : ℤ) : Except Fault Watch := do
  fdIndex netlinkSocket
  Watch.add ⟨[netlinkSocket], netlinkSocket⟩ multicastSocket

/-- The loop that adds the clients. -/
def watchClients (nodes : Heap RemoteClient) : ℕ → Option ℕ → Watch → Except Fault Watch
  | 0, _, _ => throw .notReturned
  | _ + 1, none, w => pure w
  | turns + 1, some rc, w => do
    let node ← nodes.load rc
    let w ← w.add node.value.sockFd
    watchClients nodes turns node.next w

/-- `FD_ISSET(fd, &readfds)` after `select(max_fd + 1, …)`: how a read ends if it is set. -/
def Watch.isSet (w : Watch) (p : Pass) (fd : ℤ) : Except Fault (Option Receipt) := do
  fdIndex fd
  pure (if fd ∈ w.readfds ∧ fd < w.maxFd + 1 then p.ready fd else none)

/-! ## The thread -/

/-- The thread, what it has done, and the number of clients it has ever made. -/
structure LinkedThread where
  clients : RemoteClients
  /-- The members of the context, but for `remoteClients`. -/
  context : Context
  passes : ℕ
  effects : List UpnpEffect
  made : ℕ

namespace LinkedThread

/-- `calloc(1, sizeof (Context))` -/
def init : LinkedThread := ⟨.empty, .zero, 0, [], 0⟩

/-- The loops over the clients have more turns than there are nodes. -/
def turns (t : LinkedThread) : ℕ := t.made + 1

/-- Something is done. -/
def did (t : LinkedThread) (es : List UpnpEffect) : LinkedThread :=
  { t with effects := t.effects ++ es }

/-- The address that searches are sent to: 239.255.255.250, port 1900 in network order. -/
def groupAddr : SockaddrIn := ⟨2, 0x6c07, ⟨239, 255, 255, 250⟩⟩

variable (calloc : Heap RemoteClient → ℕ)

/-- `open_ssdp`; `false` when the process has exited. -/
def openSsdp (t : LinkedThread) : Opening → Except Fault (Bool × LinkedThread)
  | .exited => pure (false, t)
  | .bindFailed => pure (true, t)
  | .opened fd => do
    let (_, clients) ← t.clients.addClient t.turns (some (calloc t.clients.nodes)) fd groupAddr
    pure (true, { t.did (searchTargets.map fun target => .sent fd (createSsdpMessage target)) with
      clients := clients
      made := t.made + 1 })

/-- `open_ssdp` once for each of several addresses. -/
def openAll (t : LinkedThread) : List Opening → Except Fault (Bool × LinkedThread)
  | [] => pure (true, t)
  | o :: os => do
    let (running, t) ← t.openSsdp calloc o
    if running then t.openAll os else pure (false, t)

/-- What is done for a client whose socket is ready. -/
def handleReady (p : Pass) (t : LinkedThread) (fd : ℤ) : Receipt → Except Fault LinkedThread
  | .data datagram =>
    pure { t.did [.received fd datagram.bytes] with
      context := handleSsdpResp t.context (cstring (overlay datagram.bytes (p.stack fd).val)) }
  | .empty => do
    let (code, clients) ← t.clients.removeClient t.turns fd
    pure { t.did (if code = 0 then [.closed fd] else []) with clients := clients }
  | .failed => pure { t with context := handleSsdpResp t.context (cstring (p.stack fd).val) }

/-- `if (FD_ISSET(rc->sockFd, &readfds))` -/
def readClient (p : Pass) (w : Watch) (t : LinkedThread) (fd : ℤ) : Except Fault LinkedThread := do
  match ← w.isSet p fd with
  | some receipt => t.handleReady p fd receipt
  | none => pure t

/-- The loop over the clients. -/
def readClients (p : Pass) (w : Watch) :
    ℕ → Option ℕ → LinkedThread → Except Fault LinkedThread
  | 0, _, _ => throw .notReturned
  | _ + 1, none, t => pure t
  | turns + 1, some rc, t => do
    let node ← t.clients.nodes.load rc
    let t ← t.readClient p w node.value.sockFd
    let node ← t.clients.nodes.load rc
    readClients p w turns node.next t

/-- What follows the loop does not look at the clients. -/
def getAppList (p : Pass) (t : LinkedThread) : Bool × LinkedThread :=
  let o := (Program.getAppList p).run ⟨t.context, t.passes⟩
  (o.val, { t.did o.effects with context := o.state.context })

/-- One pass of the loop; `false` when the thread does nothing any more. -/
def pass (netlinkSocket multicastSocket : ℤ) (world : ℕ → Pass) (t : LinkedThread) :
    Except Fault (Bool × LinkedThread) := do
  let p := world t.passes
  let w ← watchSockets netlinkSocket multicastSocket
  let w ← watchClients t.clients.nodes t.turns t.clients.remoteClients w
  let (running, t) ← LinkedThread.openAll calloc { t with passes := t.passes + 1 } p.netlink
  if running then do
    let t ← readClients p w t.turns t.clients.remoteClients t
    pure (t.getAppList p)
  else pure (false, t)

/-- The thread after its startup and at most `n` passes of its loop, and whether it goes on. -/
def runAfter (netlinkSocket multicastSocket : ℤ) (interfaces : List Interface)
    (world : ℕ → Pass) : ℕ → Except Fault (Bool × LinkedThread)
  | 0 => init.openAll calloc (startupOpenings interfaces)
  | n + 1 => do
    let (running, t) ← runAfter netlinkSocket multicastSocket interfaces world n
    if running then t.pass calloc netlinkSocket multicastSocket world else pure (false, t)

end LinkedThread

end MirrorLink.Program
