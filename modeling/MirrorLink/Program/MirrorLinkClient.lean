import MirrorLink.Program.Actions

/-!
# The slots of the user interface: `MirrorLinkClient/mirrorlinkclient.cpp`

`onStart` fetches the list of applications and goes through it, and frees every node it has
come to.  The server keeps its pointer to the first of them until `onStop` destroys it.
-/

set_option autoImplicit false

namespace MirrorLink.Program

open MirrorLink.Library

/-- `m_server`, and the memory its applications are in. -/
structure MirrorLinkClient where
  server : Option RemoteServer
  apps : AppHeap

/-- `MirrorLinkClient::MirrorLinkClient` -/
def MirrorLinkClient.init : MirrorLinkClient := ⟨none, AppHeap.empty⟩

/-- A slot that is called, with how its exchanges end. -/
inductive Slot where
  | onStart (ip : List UInt8) (port : UInt16) (path : List UInt8) (create list : Reply)
  | onStop
  | onLaunch (appid : UInt32) (launch : Reply)

/-- What the user is shown, and the session that is started. -/
inductive Shown where
  | addApp (app : App)
  | vncSessionStart (ip : List UInt8) (port : UInt16)
  deriving DecidableEq

/-- The loop `while (nextApp)`: the applications that are emitted, and the memory. -/
def emitApps : ℕ → Option ℕ → AppHeap → Except Fault (List App × AppHeap)
  | 0, _, _ => throw .notReturned
  | _ + 1, none, apps => pure ([], apps)
  | turns + 1, some app, apps => do
    let node ← apps.nodes.load app
    let (emitted, apps) ← emitApps turns node.next (apps.free app)
    pure (node.value :: emitted, apps)

/-- The server, created if there is none. -/
def ensureServer (parse : Option (List UInt8) → Option Element) (server : Option RemoteServer)
    (ip : List UInt8) (port : UInt16) (path : List UInt8) (create : Reply) :
    Except Fault (Option RemoteServer) :=
  match server with
  | some server => pure (some server)
  | none => remoteServerCreate parse ip port path create

/-- What `onStart` does with its server.  The loop has more turns than there were nodes. -/
def listApplications (parse : Option (List UInt8) → Option Element) (server : RemoteServer)
    (apps : AppHeap) (list : Reply) : Except Fault (MirrorLinkClient × List App) := do
  let (_, server, apps) ← remoteServerGetApplicationList parse server apps 0 (ascii "*") list
  let (emitted, apps) ← emitApps (apps.fresh + 1) server.appList apps
  pure (⟨some server, apps⟩, emitted)

/-- `MirrorLinkClient::onStart` -/
def onStart (parse : Option (List UInt8) → Option Element) (c : MirrorLinkClient) (ip : List UInt8)
    (port : UInt16) (path : List UInt8) (create list : Reply) :
    Except Fault (MirrorLinkClient × List App) := do
  let server ← ensureServer parse c.server ip port path create
  match server with
  | none => pure (⟨none, c.apps⟩, [])
  | some server => listApplications parse server c.apps list

/-- `MirrorLinkClient::onStop`: `remote_server_destory` frees no application. -/
def onStop (c : MirrorLinkClient) : MirrorLinkClient := ⟨none, c.apps⟩

/-- `MirrorLinkClient::onLaunch`: the client, and the arguments of `vnc_session_start`. -/
def onLaunch (parse : Option (List UInt8) → Option Element) (c : MirrorLinkClient) (appid : UInt32)
    (launch : Reply) : Except Fault (MirrorLinkClient × Option (List UInt8 × UInt16)) :=
  match c.server with
  | none => pure (c, none)
  | some server => do
    let (ret, server) ← remoteServerLaunchApplication parse server appid 0 launch
    pure ({ c with server := some server },
      if ret = 0 then some (server.vncIp, server.vncPort) else none)

/-- One slot: the client after it, and what is shown. -/
def slotStep (parse : Option (List UInt8) → Option Element) (c : MirrorLinkClient) :
    Slot → Except Fault (MirrorLinkClient × List Shown)
  | .onStart ip port path create list => do
    let (c, emitted) ← onStart parse c ip port path create list
    pure (c, emitted.map .addApp)
  | .onStop => pure (onStop c, [])
  | .onLaunch appid launch => do
    let (c, started) ← onLaunch parse c appid launch
    pure (c, (started.map fun s => .vncSessionStart s.1 s.2).toList)

/-- One slot after the other. -/
def runSlots (parse : Option (List UInt8) → Option Element) (c : MirrorLinkClient)
    (slots : List Slot) :
    Except Fault MirrorLinkClient :=
  slots.foldlM (fun c slot => (slotStep parse c slot).map Prod.fst) c

end MirrorLink.Program
