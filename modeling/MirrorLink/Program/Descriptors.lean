import MirrorLink.Library.Ledger
import MirrorLink.Program.MirrorLinkClient
import MirrorLink.Program.Upnp
import MirrorLink.Program.VncHandshake

/-!
# Who has which descriptor

Descriptors come from `conn_open` and from `open_ssdp`.  `http_client_send` closes its own
before it returns; a search socket belongs to a client until `remove_client` closes it; a
`vnc_session_task` has one for as long as it runs.

Each function is the one of its source file, with what it opens and closes.  What the system
answers is a parameter.
-/

set_option autoImplicit false

namespace MirrorLink.Program

open MirrorLink.Library Effectful

/-- The context, and the sessions that run, each with its descriptor. -/
structure Process where
  context : Context
  sessions : List (ℤ × Client)

/-- The descriptors that belong to a client or to a session. -/
def Process.held (p : Process) : List ℤ := p.context.remoteClients ++ p.sessions.map Prod.fst

def Process.init : Process := ⟨Context.zero, []⟩

abbrev Descriptors (α : Type) : Type := Effectful Process (Entry ℤ) α

/-! ## `UI/conn.c` -/

/-- How `connect` returns. -/
inductive ConnectAnswer where
  | connected
  /-- `EINPROGRESS` -/
  | inProgress
  /-- `EINTR` -/
  | interrupted
  | failed

/-- How the `select` of `conn_open` returns that no signal interrupts. -/
inductive ConnectWait where
  | ready (writable exceptional : Bool)
  | timedOut
  | failed

/-- What one `conn_open` meets: its descriptor, if there is one, and the `SO_ERROR`, if
`getsockopt` gives it. -/
structure ConnOpening where
  socket : Option ℕ
  connect : ConnectAnswer
  select : ConnectWait
  soError : Option UInt32

/-- From `select_intr` on: whether the descriptor is returned. -/
def ConnOpening.selects (o : ConnOpening) : Bool :=
  match o.select with
  | .timedOut => false
  | .failed => false
  | .ready writable exceptional =>
    if exceptional then false else if writable then o.soError = some 0 else false

/-- From `connect` on. -/
def ConnOpening.connects (o : ConnOpening) : Bool :=
  match o.connect with
  | .connected => true
  | .failed => false
  | .inProgress => o.selects
  | .interrupted => o.selects

/-- `conn_open` -/
def connOpen (o : ConnOpening) : Descriptors ℤ :=
  match o.socket with
  | none => pure (-1)
  | some fd => do
    emit (.opened fd)
    if o.connects then pure fd
    else do
      emit (.closed fd)
      pure (-1)

/-- `conn_close` -/
def connClose (fd : ℤ) : Descriptors Unit := emit (.closed fd)

/-! ## `UI/http_client.c` and `UI/remote_server.c` -/

/-- What one `http_client_send` meets. -/
structure Network where
  opening : ConnOpening
  calls : List (List Answer)

/-- `http_client_send`.  Nothing if it does not return. -/
def httpClientSendOn (ip : List UInt8) (port : UInt16) (req : HttpReq) (net : Network) :
    Descriptors (Option Exchange) := do
  let fd ← connOpen net.opening
  if fd < 0 then pure (httpClientSend ip port req none)
  else
    match httpClientSend ip port req (some net.calls) with
    | none => pure none
    | some e => do
      connClose fd
      pure (some e)

/-- What comes of it is what comes of a connection that is opened or not. -/
theorem httpClientSend_of_on {ip : List UInt8} {port : UInt16} {req : HttpReq} {net : Network}
    {p : Process} {e : Exchange}
    (h : ((httpClientSendOn ip port req net).run p).val = some e) :
    ∃ connection, httpClientSend ip port req connection = some e := by
  unfold httpClientSendOn at h
  simp only [val_bind] at h
  by_cases hfd : ((connOpen net.opening).run p).val < 0
  · rw [if_pos hfd] at h
    exact ⟨none, h⟩
  · rw [if_neg hfd] at h
    cases hsend : httpClientSend ip port req (some net.calls) with
    | none =>
      rw [hsend] at h
      cases h
    | some e' =>
      rw [hsend] at h
      cases h
      exact ⟨some net.calls, hsend⟩

/-- The value of a part that returns. -/
def returned {α : Type} : Except Fault α → Option α
  | .ok a => some a
  | .error _ => none

/-- What returns has gone right. -/
theorem returned_eq_some {α : Type} {x : Except Fault α} {a : α} (h : returned x = some a) :
    x = .ok a := by
  cases x with
  | error fault => cases h
  | ok b =>
    cases h
    rfl

/-- `remote_server_create` -/
def remoteServerCreateOn (parse : Option (List UInt8) → Option Element) (ip : List UInt8)
    (port : UInt16) (path : List UInt8) (net : Network) :
    Descriptors (Option (Option RemoteServer)) := do
  match ← httpClientSendOn ip port (httpClientMakeReq (ascii "GET") path) net with
  | none => pure none
  | some e => pure (returned (describe parse ip port e.response))

/-- Go on with the value of a part that returns. -/
def onReturn {α β : Type} : Except Fault α → (α → Descriptors (Option β)) → Descriptors (Option β)
  | .ok a, f => f a
  | .error _, _ => pure none

/-- What goes on after a return has returned. -/
theorem val_onReturn {α β : Type} {x : Except Fault α} {f : α → Descriptors (Option β)}
    {p : Process}
    {b : β} (h : ((onReturn x f).run p).val = some b) :
    ∃ a, x = .ok a ∧ ((f a).run p).val = some b := by
  cases x with
  | error fault => cases h
  | ok a => exact ⟨a, rfl, h⟩

/-- `remote_server_invoke_action` -/
def invokeActionOn {σ : Type} (server : RemoteServer) (stype : Fin 3) (action args : List UInt8)
    (handler : Option (List UInt8) → Except Fault (UInt8 × σ)) (s : σ) (net : Network) :
    Descriptors (Option (UInt16 × σ)) :=
  onReturn (actionRequest server stype action args) fun rq =>
    onReturn (deref server.ip) fun ip => do
      match ← httpClientSendOn ip server.port rq net with
      | none => pure none
      | some e => pure (returned (actOn handler s e.response))

/-- What comes of an action is what comes of it with some reply. -/
theorem invokeAction_of_on {σ : Type} {server : RemoteServer} {stype : Fin 3}
    {action args : List UInt8} {handler : Option (List UInt8) → Except Fault (UInt8 × σ)} {s : σ}
    {net : Network} {p : Process} {r : UInt16 × σ}
    (h : ((invokeActionOn server stype action args handler s net).run p).val = some r) :
    ∃ reply, invokeAction server stype action args handler s reply = .ok r := by
  obtain ⟨rq, hrq, h⟩ := val_onReturn h
  obtain ⟨ip, hip, h⟩ := val_onReturn h
  rw [val_bind] at h
  cases hsend : ((httpClientSendOn ip server.port rq net).run p).val with
  | none =>
    rw [hsend] at h
    cases h
  | some e =>
    rw [hsend] at h
    obtain ⟨connection, hconnection⟩ := httpClientSend_of_on hsend
    obtain ⟨reply, hreply⟩ := httpExchange_of_httpClientSend hconnection
    refine ⟨reply, ?_⟩
    refine bind_eq_ok.mpr ⟨rq, hrq, bind_eq_ok.mpr ⟨ip, hip, ?_⟩⟩
    refine bind_eq_ok.mpr ⟨e.response, hreply, ?_⟩
    exact returned_eq_some h

/-- `remote_server_get_application_list` -/
def remoteServerGetApplicationListOn (parse : Option (List UInt8) → Option Element)
    (server : RemoteServer) (apps : AppHeap) (pid : UInt32) (filter : List UInt8)
    (net : Network) : Descriptors (Option (UInt16 × RemoteServer × AppHeap)) :=
  onReturn (sprintfInto 100 (listArgs filter pid)) fun args =>
    invokeActionOn server serviceTypeApp (ascii "GetApplicationList") args
      (getApplicationListParse parse (server, apps)) (server, apps) net

/-- `remote_server_launch_application` -/
def remoteServerLaunchApplicationOn (parse : Option (List UInt8) → Option Element)
    (server : RemoteServer) (appid pid : UInt32) (net : Network) :
    Descriptors (Option (UInt16 × RemoteServer)) :=
  onReturn (sprintfInto 100 (launchArgs appid pid)) fun args =>
    invokeActionOn server serviceTypeApp (ascii "LaunchApplication") args
      (launchApplicationParse parse server) server net

/-- `remote_server_set_client_profile` -/
def remoteServerSetClientProfileOn (server : RemoteServer) (pid : UInt32) (net : Network) :
    Descriptors (Option (UInt16 × RemoteServer)) :=
  onReturn (sprintfInto 50 (profileId pid)) fun buf =>
    invokeActionOn server serviceTypeClp (ascii "SetClientProfile")
      ((strAppend (strAppend none buf) clientProfile).getD []) (setClientProfileParse server)
      server net

/-! ## `CoreStack/vnc_session.c` -/

/-- `vnc_session_task` up to its loop, with the peer at the descriptor.  What returns before
the loop closes nothing. -/
def vncSessionTask (fd : ℤ) (peer : Client) : Descriptors Unit :=
  let o := vncHandshake.run peer
  if o.val then modify fun p => { p with sessions := p.sessions ++ [(fd, o.state)] }
  else pure ()

/-- The session at `i` goes on with a call of `vnc_session_doworks`, the last one if it
returns 0. -/
def sessionDoworks (i : ℕ) (p : Process) : Process :=
  match p.sessions[i]? with
  | none => p
  | some (fd, c) =>
    let o := vncSessionDoworks.run c
    if o.val then { p with sessions := p.sessions.set i (fd, o.state) }
    else { p with sessions := p.sessions.eraseIdx i }

/-- `MirrorLinkClient::process_app_launched`: `vnc_session_start` is `conn_open`. -/
def processAppLaunched (vnc : ConnOpening) (peer : Client) : Descriptors Unit := do
  let fd ← connOpen vnc
  if fd ≥ 0 then vncSessionTask fd peer else pure ()

/-- `MirrorLinkClient::onLaunch`, up to the loop of the session.  `false` if it does not
come so far. -/
def onLaunchOn (parse : Option (List UInt8) → Option Element) (server : RemoteServer)
    (appid : UInt32) (net : Network) (vnc : ConnOpening) (peer : Client) : Descriptors Bool := do
  match ← remoteServerLaunchApplicationOn parse server appid 0 net with
  | none => pure false
  | some (ret, _) => do
    if ret = 0 then processAppLaunched vnc peer else pure ()
    pure true

/-! ## `UI/ssdp.cpp` and `UI/main.cpp` -/

/-- What one `open_ssdp` meets: its descriptor, if there is one, and which of its other calls
succeed. -/
structure SsdpOpening where
  socket : Option ℕ
  setsockopt : Bool
  bind : Bool
  setsockoptMulticast : Bool

/-- `open_ssdp`; `false` when the process has exited. -/
def openSsdpOn (o : SsdpOpening) : Descriptors Bool :=
  match o.socket with
  | none => pure false
  | some fd => do
    emit (.opened fd)
    if o.setsockopt then
      if o.bind then
        if o.setsockoptMulticast then do
          modify fun p => { p with context := p.context.addClient fd }
          pure true
        else pure false
      else pure true
    else pure false

/-- How `open_ssdp` ends for the discovery thread. -/
def SsdpOpening.opening (o : SsdpOpening) : Opening :=
  match o.socket with
  | none => .exited
  | some fd =>
    if o.setsockopt then
      if o.bind then if o.setsockoptMulticast then .opened fd else .exited
      else .bindFailed
    else .exited

/-- The clients are those of the discovery thread. -/
theorem openSsdpOn_openSsdp (o : SsdpOpening) (p : Process) (t : Thread)
    (h : p.context = t.context) :
    ((openSsdpOn o).run p).val = ((openSsdp o.opening).run t).val ∧
      ((openSsdpOn o).run p).state.context = ((openSsdp o.opening).run t).state.context := by
  unfold openSsdpOn SsdpOpening.opening
  cases o.socket with
  | none => exact ⟨rfl, h⟩
  | some fd =>
    by_cases hopt : o.setsockopt = true
    · by_cases hbind : o.bind = true
      · by_cases hmulticast : o.setsockoptMulticast = true
        · simp [hopt, hbind, hmulticast, openSsdp, modifyContext, h]
        · simp [hopt, hbind, hmulticast, openSsdp, h]
      · simp [hopt, hbind, openSsdp, h]
    · simp [hopt, openSsdp, h]

/-- `remove_client` -/
def removeClientOn (sockFd : ℤ) : Descriptors Unit := do
  let context ← gets Process.context
  if sockFd ∈ context.remoteClients then do
    emit (.closed sockFd)
    modify fun p => { p with context := p.context.eraseClient sockFd }
  else pure ()

/-! ## Runs -/

/-- Something the program does. -/
inductive Activity where
  | create (ip : List UInt8) (port : UInt16) (path : List UInt8) (net : Network)
  | getApplicationList (server : RemoteServer) (apps : AppHeap) (pid : UInt32)
      (filter : List UInt8) (net : Network)
  | setClientProfile (server : RemoteServer) (pid : UInt32) (net : Network)
  | launch (server : RemoteServer) (appid : UInt32) (net : Network) (vnc : ConnOpening)
      (peer : Client)
  | doworks (i : ℕ)
  | openSsdp (o : SsdpOpening)
  | removeClient (sockFd : ℤ)

/-- `false` if the program does not get beyond it. -/
def Activity.run (parse : Option (List UInt8) → Option Element) : Activity → Descriptors Bool
  | create ip port path net => do
    let server ← remoteServerCreateOn parse ip port path net
    pure server.isSome
  | getApplicationList server apps pid filter net => do
    let result ← remoteServerGetApplicationListOn parse server apps pid filter net
    pure result.isSome
  | setClientProfile server pid net => do
    let result ← remoteServerSetClientProfileOn server pid net
    pure result.isSome
  | launch server appid net vnc peer => onLaunchOn parse server appid net vnc peer
  | doworks i => do
    modify (sessionDoworks i)
    pure true
  | openSsdp o => openSsdpOn o
  | removeClient sockFd => do
    removeClientOn sockFd
    pure true

/-- One activity after the other. -/
def runActivities (parse : Option (List UInt8) → Option Element) :
    List Activity → Descriptors Bool
  | [] => pure true
  | a :: as => do
    let running ← a.run parse
    if running then runActivities parse as else pure false

end MirrorLink.Program
