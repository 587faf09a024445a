import MirrorLink.Program.Netlink
import MirrorLink.Program.Poll

/-!
# The list of clients: `add_client` and `remove_client` of `UI/main.cpp`

A client is added behind the last one, in memory that `calloc` gives, and the first client
with a socket is removed.  Which descriptors are closed and which nodes are freed is
recorded, oldest first.

What is left of a `RemoteClients` without addresses and records is the `ClientList` that the
loop over the clients goes through.
-/

set_option autoImplicit false

namespace MirrorLink.Program

open MirrorLink.Library

/-- `struct sockaddr_in` -/
structure SockaddrIn where
  sinFamily : UInt16
  sinPort : UInt16
  sinAddr : InAddr
  deriving DecidableEq, Repr

/-- `RemoteClient`, which is linked in a `Cell`. -/
structure RemoteClient where
  sockFd : ℤ
  groupAddr : SockaddrIn
  deriving DecidableEq, Repr

structure RemoteClients where
  remoteClients : Option ℕ
  nodes : Heap RemoteClient
  closed : List ℤ
  freed : List ℕ

namespace RemoteClients

def empty : RemoteClients := ⟨none, fun _ => none, [], []⟩

/-- `while (i->next != NULL)`, and `i->next = rc` behind it. -/
def linkLast (c : RemoteClients) (rc : ℕ) : ℕ → ℕ → Except Fault RemoteClients
  | 0, _ => throw .notReturned
  | turns + 1, i => do
    let node ← c.nodes.load i
    match node.next with
    | none => pure { c with nodes := c.nodes.store i { node with next := some rc } }
    | some next => c.linkLast rc turns next

/-- `add_client`, with what `calloc` returns. -/
def addClient (c : RemoteClients) (turns : ℕ) (calloc : Option ℕ) (sockFd : ℤ)
    (groupAddr : SockaddrIn) : Except Fault (ℕ × RemoteClients) :=
  match calloc with
  | none => throw .nullPointer
  | some rc =>
    let c := { c with nodes := c.nodes.store rc ⟨⟨sockFd, groupAddr⟩, none⟩ }
    match c.remoteClients with
    | none => pure (rc, { c with remoteClients := some rc })
    | some i => do
      let c ← c.linkLast rc turns i
      pure (rc, c)

/-- `context->remoteClients = i->next` or `last->next = i->next` -/
def unlink (c : RemoteClients) (last next : Option ℕ) : Except Fault RemoteClients :=
  match last with
  | none => pure { c with remoteClients := next }
  | some last => do
    let node ← c.nodes.load last
    pure { c with nodes := c.nodes.store last { node with next := next } }

/-- `close(i->sockFd)` and `free(i)` -/
def closeAndFree (c : RemoteClients) (i : ℕ) : Except Fault RemoteClients := do
  let node ← c.nodes.load i
  pure { c with
    nodes := c.nodes.free i
    closed := c.closed ++ [node.value.sockFd]
    freed := c.freed ++ [i] }

/-- The loop of `remove_client`. -/
def removeFrom (c : RemoteClients) (sockFd : ℤ) :
    ℕ → Option ℕ → Option ℕ → Except Fault (ℤ × RemoteClients)
  | 0, _, _ => throw .notReturned
  | _ + 1, _, none => pure (-1, c)
  | turns + 1, last, some i => do
    let node ← c.nodes.load i
    if node.value.sockFd = sockFd then
      let c ← c.unlink last node.next
      let c ← c.closeAndFree i
      pure (0, c)
    else c.removeFrom sockFd turns (some i) node.next

/-- `remove_client` -/
def removeClient (c : RemoteClients) (turns : ℕ) (sockFd : ℤ) :
    Except Fault (ℤ × RemoteClients) :=
  match c.remoteClients with
  | none => pure (-1, c)
  | some _ => c.removeFrom sockFd turns none c.remoteClients

/-- The clients as the loop over them knows them. -/
def clientList (c : RemoteClients) : ClientList :=
  ⟨c.remoteClients, c.nodes.map RemoteClient.sockFd⟩

end RemoteClients

/-! ## Calls -/

inductive ClientCall where
  /-- With what `calloc` returns in it. -/
  | add (calloc : Option ℕ) (sockFd : ℤ) (groupAddr : SockaddrIn)
  | remove (sockFd : ℤ)

inductive ClientResult where
  | node (rc : ℕ)
  | code (ret : ℤ)
  deriving DecidableEq

namespace RemoteClients

def perform (c : RemoteClients) (turns : ℕ) :
    ClientCall → Except Fault (ClientResult × RemoteClients)
  | .add calloc sockFd groupAddr => do
    let (rc, c) ← c.addClient turns calloc sockFd groupAddr
    pure (.node rc, c)
  | .remove sockFd => do
    let (ret, c) ← c.removeClient turns sockFd
    pure (.code ret, c)

/-- Some calls, one after the other. -/
def performAll (turns : ℕ) (c : RemoteClients) (clientCalls : List ClientCall) :
    Except Fault RemoteClients :=
  clientCalls.foldlM (fun c call => do
    let (_, c) ← c.perform turns call
    pure c) c

end RemoteClients

end MirrorLink.Program
