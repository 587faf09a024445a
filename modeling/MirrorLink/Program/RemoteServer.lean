import MirrorLink.Library.Heap
import MirrorLink.Program.HttpClient

/-!
# The remote server: `UI/remote_server.c`

A `remote_server` is made from the description a device sends, and is asked for its
applications and to launch one of them.  Descriptions and answers are documents: what libxml
makes of them is a tree of elements, and `parse` stands for `xmlParseDoc` with
`xmlDocGetRootElement`, which give nothing for a text that is no document.

libxml takes a null pointer for a document or an element without children.  Where the code
itself follows a null pointer, or stores behind the end of an array, it ends in a `Fault`.
-/

set_option autoImplicit false

namespace MirrorLink.Program

open MirrorLink.Library

/-! ## Documents -/

/-- An element: its name, what `xmlNodeGetContent` gives, and its element children. -/
inductive Element where
  | mk (name content : List UInt8) (children : List Element)

namespace Element

def name : Element → List UInt8
  | mk name _ _ => name

def content : Element → List UInt8
  | mk _ content _ => content

def children : Element → List Element
  | mk _ _ children => children

end Element

/-- The elements from `xmlFirstElementChild` on. -/
def elementChildren : Option Element → List Element
  | none => []
  | some e => e.children

/-- Follow a pointer that may be null. -/
def deref {α : Type} : Option α → Except Fault α
  | none => throw .nullPointer
  | some a => pure a

/-- `sprintf` into an array of `size` bytes. -/
def sprintfInto (size : ℕ) (line : List UInt8) : Except Fault (List UInt8) :=
  if line.length < size then pure line else throw .overflow

/-! ## The server -/

structure ServiceInfo where
  surl : Option (List UInt8)
  curl : Option (List UInt8)
  eurl : Option (List UInt8)
  deriving DecidableEq

/-- `struct _App` without its link. -/
structure App where
  appID : UInt32
  name : Option (List UInt8)
  description : Option (List UInt8)
  iconPath : Option (List UInt8)
  deriving DecidableEq, Repr

structure RemoteServer where
  ip : Option (List UInt8)
  uuid : Option (List UInt8)
  port : UInt16
  sinfo : Fin 3 → ServiceInfo
  appList : Option ℕ
  vncIp : List UInt8
  vncPort : UInt16

/-- `calloc(1, sizeof(*server))` with an address and a port -/
def RemoteServer.zero (ip : List UInt8) (port : UInt16) : RemoteServer :=
  ⟨strAppend none ip, none, port, fun _ => ⟨none, none, none⟩, none, [], 0⟩

/-! ## HTTP -/

/-- How an exchange ends: without a connection, or with what `http_client_send` returns.  A
response whose status is 0 is not returned. -/
inductive Reply where
  | refused
  | answered (rsp : Option {rsp : HttpRsp // rsp.errcode ≠ 0})

/-- `http_client_send`, for how the exchange ends. -/
def httpExchange (ip : List UInt8) (port : UInt16) (req : HttpReq) :
    Reply → Except Fault (Option HttpRsp)
  | .refused => pure none
  | .answered rsp =>
    match requestText ip port req with
    | none => throw .overflow
    | some _ => pure (rsp.map Subtype.val)

/-- Every call of `http_client_send` that returns is such an exchange. -/
theorem httpExchange_of_httpClientSend {ip : List UInt8} {port : UInt16} {req : HttpReq}
    {connection : Option (List (List Answer))} {e : Exchange}
    (h : httpClientSend ip port req connection = some e) :
    ∃ reply, httpExchange ip port req reply = .ok e.response := by
  cases connection with
  | none =>
    cases h
    exact ⟨.refused, rfl⟩
  | some calls =>
    rw [httpClientSend, Option.bind_eq_bind, Option.bind_eq_some_iff] at h
    obtain ⟨wbuf, hwbuf, h⟩ := h
    rw [Option.bind_eq_bind, Option.bind_eq_some_iff] at h
    obtain ⟨rsp, -, h⟩ := h
    cases h
    by_cases hcode : rsp.errcode = 0
    · refine ⟨.answered none, ?_⟩
      rw [httpExchange, hwbuf, if_pos hcode]
      rfl
    · refine ⟨.answered (some ⟨rsp, hcode⟩), ?_⟩
      rw [httpExchange, hwbuf, if_neg hcode]
      rfl

/-! ## The description -/

/-- The members of a `service_info`. -/
inductive Url where
  | surl
  | curl
  | eurl
  deriving DecidableEq, Repr

/-- `str_append` to a member. -/
def ServiceInfo.append (info : ServiceInfo) (content : List UInt8) : Url → ServiceInfo
  | .surl => { info with surl := strAppend info.surl content }
  | .curl => { info with curl := strAppend info.curl content }
  | .eurl => { info with eurl := strAppend info.eurl content }

/-- `str_append(&(server->sinfo[type].member), content)`: the member is read first, and an
empty text is not stored. -/
def appendUrl (server : Option RemoteServer) (type : ℕ) (url : Url) (content : List UInt8) :
    Except Fault (Option RemoteServer) := do
  let server ← deref server
  if content = [] then pure (some server)
  else if h : type < 3 then
    pure (some { server with
      sinfo := Function.update server.sinfo ⟨type, h⟩
        ((server.sinfo ⟨type, h⟩).append content url) })
  else throw .outsideArray

/-- `str_append(&(server->uuid), content)` -/
def appendUuid (server : Option RemoteServer) (content : List UInt8) :
    Except Fault (Option RemoteServer) := do
  let server ← deref server
  pure (some { server with uuid := strAppend server.uuid content })

/-- What a `serviceType` sets the index to. -/
def serviceTypeOf (stype : List UInt8) (type : ℕ) : ℕ :=
  if stype = ascii "urn:schemas-upnp-org:service:TmApplicationServer:1" then 0
  else if stype = ascii "urn:schemas-upnp-org:service:TmClientProfile:1" then 1
  else if stype = ascii "urn:schemas-upnp-org:service:TmNotificationServer:1" then 2
  else type

/-- The loop over the children of a `service`: the server, and the index `type`. -/
def serviceChild (s : Option RemoteServer × ℕ) (c4 : Element) :
    Except Fault (Option RemoteServer × ℕ) :=
  if c4.name = ascii "serviceType" then pure (s.1, serviceTypeOf c4.content s.2)
  else if c4.name = ascii "SCPDURL" then do
    let server ← appendUrl s.1 s.2 .surl c4.content
    pure (server, s.2)
  else if c4.name = ascii "controlURL" then do
    let server ← appendUrl s.1 s.2 .curl c4.content
    pure (server, s.2)
  else if c4.name = ascii "eventSubURL" then do
    let server ← appendUrl s.1 s.2 .eurl c4.content
    pure (server, s.2)
  else pure s

/-- The loop over the children of a `serviceList`. -/
def serviceListChild (server : Option RemoteServer) (c3 : Element) :
    Except Fault (Option RemoteServer) :=
  if c3.name = ascii "service" then do
    let s ← c3.children.foldlM serviceChild (server, 3)
    pure s.1
  else pure server

/-- The loop over the children of a `device`. -/
def deviceChild (ip : List UInt8) (port : UInt16) (server : Option RemoteServer) (c2 : Element) :
    Except Fault (Option RemoteServer) :=
  if c2.name = ascii "deviceType" ∧
      c2.content = ascii "urn:schemas-upnp-org:device:TmServerDevice:1"
  then pure (some (RemoteServer.zero ip port))
  else if c2.name = ascii "UDN" then appendUuid server c2.content
  else if c2.name = ascii "serviceList" then c2.children.foldlM serviceListChild server
  else pure server

/-- The loop over the children of the root. -/
def rootChild (ip : List UInt8) (port : UInt16) (server : Option RemoteServer) (c1 : Element) :
    Except Fault (Option RemoteServer) :=
  if c1.name = ascii "device" then c1.children.foldlM (deviceChild ip port) server
  else pure server

/-- What `remote_server_create` makes of a response. -/
def describe (parse : Option (List UInt8) → Option Element) (ip : List UInt8) (port : UInt16) :
    Option HttpRsp → Except Fault (Option RemoteServer)
  | none => pure none
  | some rsp =>
    if rsp.errcode = 200 then
      (elementChildren (parse rsp.body)).foldlM (rootChild ip port) none
    else pure none

/-- `remote_server_create` -/
def remoteServerCreate (parse : Option (List UInt8) → Option Element) (ip : List UInt8)
    (port : UInt16) (path : List UInt8) (reply : Reply) : Except Fault (Option RemoteServer) := do
  let rp ← httpExchange ip port (httpClientMakeReq (ascii "GET") path) reply
  describe parse ip port rp

end MirrorLink.Program
