import MirrorLink.Library.Heap
import MirrorLink.Program.Upnp

/-!
# The clients as they are linked: `UI/main.cpp`

`RemoteClient` nodes form a chain that begins at `remoteClients`.  `remove_client` frees the
first node with the socket it is given, while the loop over the clients stands at a node of
the same chain and goes on from there.

The loops are given a number of turns; which addresses are visited and whose sockets are
read is recorded.
-/

set_option autoImplicit false

namespace MirrorLink.Program

open MirrorLink.Library

/-- The nodes of the clients: the value of a cell is its `sockFd`. -/
structure ClientList where
  remoteClients : Option ℕ
  nodes : Heap ℤ

namespace ClientList

/-- `context->remoteClients = i->next` or `last->next = i->next` -/
def unlink (l : ClientList) (last next : Option ℕ) : Except Fault ClientList :=
  match last with
  | none => pure { l with remoteClients := next }
  | some last => do
    let node ← l.nodes.load last
    pure { l with nodes := l.nodes.store last { node with next := next } }

/-- The loop of `remove_client`. -/
def removeFrom (l : ClientList) (sockFd : ℤ) :
    ℕ → Option ℕ → Option ℕ → Except Fault (ℤ × ClientList)
  | 0, _, _ => throw .notReturned
  | _ + 1, _, none => pure (-1, l)
  | turns + 1, last, some i => do
    let node ← l.nodes.load i
    if node.value = sockFd then
      let l ← l.unlink last node.next
      pure (0, { l with nodes := l.nodes.free i })
    else l.removeFrom sockFd turns (some i) node.next

/-- `remove_client` on nodes of which only the socket is known. -/
def removeSocket (l : ClientList) (turns : ℕ) (sockFd : ℤ) : Except Fault (ℤ × ClientList) :=
  l.removeFrom sockFd turns none l.remoteClients

end ClientList

/-- What a pass has done: the clients, the nodes it has come to, and those whose socket it
has read. -/
structure Poll where
  clients : ClientList
  visited : List ℕ
  handled : List ℕ

/-- What is done at a node: `remove_client` if `read` returns 0, else `handle_ssdp_resp`. -/
def pollClient (turns : ℕ) (rc : ℕ) (node : Cell ℤ) (p : Poll) :
    Option Receipt → Except Fault Poll
  | none => pure p
  | some .empty => do
    let (_, clients) ← p.clients.removeSocket turns node.value
    pure { p with clients := clients, handled := p.handled ++ [rc] }
  | some _ => pure { p with handled := p.handled ++ [rc] }

/-- The loop over the clients.  `reads` says of each node whether its socket is ready, and
how the read ends then. -/
def pollFrom (turns : ℕ) (reads : ℕ → Option Receipt) :
    ℕ → Option ℕ → Poll → Except Fault Poll
  | 0, _, _ => throw .notReturned
  | _ + 1, none, p => pure p
  | left + 1, some rc, p => do
    let node ← p.clients.nodes.load rc
    let p ← pollClient turns rc node { p with visited := p.visited ++ [rc] } (reads rc)
    let node ← p.clients.nodes.load rc
    pollFrom turns reads left node.next p

/-- One pass over the clients. -/
def pollClients (turns : ℕ) (reads : ℕ → Option Receipt) (l : ClientList) : Except Fault Poll :=
  pollFrom turns reads turns l.remoteClients ⟨l, [], []⟩

end MirrorLink.Program
