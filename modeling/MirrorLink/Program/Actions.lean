import MirrorLink.Program.RemoteServer

/-!
# The actions of the remote server: `UI/remote_server.c`

An action is a SOAP request whose answer is a document.  Both handlers go down from the root
through the first child at each level, as long as the names are the expected ones.
-/

set_option autoImplicit false

namespace MirrorLink.Program

open MirrorLink.Library

/-! ## The memory for applications -/

/-- The `App` nodes, and the next address that has never been used. -/
structure AppHeap where
  nodes : Heap App
  fresh : ℕ
  unused : ∀ a, fresh ≤ a → nodes a = none

namespace AppHeap

def empty : AppHeap := ⟨fun _ => none, 0, fun _ _ => rfl⟩

/-- `calloc(1, sizeof(App))` and what is stored there then. -/
def alloc (apps : AppHeap) (node : Cell App) : ℕ × AppHeap :=
  (apps.fresh,
    { nodes := apps.nodes.store apps.fresh node
      fresh := apps.fresh + 1
      unused := by
        intro a ha
        rw [Heap.store_of_ne _ _ (by omega)]
        exact apps.unused a (by omega) })

/-- A new cell has the app it is allocated with. -/
theorem alloc_self (apps : AppHeap) (node : Cell App) :
    (apps.alloc node).2.nodes apps.fresh = some node := Heap.store_self _ _ _

/-- The cells that were there are as they were. -/
theorem alloc_of_lt (apps : AppHeap) (node : Cell App) {a : ℕ} (ha : a < apps.fresh) :
    (apps.alloc node).2.nodes a = apps.nodes a := Heap.store_of_ne _ _ (Nat.ne_of_lt ha)

/-- `free(app)` -/
def free (apps : AppHeap) (a : ℕ) : AppHeap :=
  { nodes := apps.nodes.free a
    fresh := apps.fresh
    unused := fun b hb => Heap.shrinks_free apps.nodes a b (apps.unused b hb) }

end AppHeap

/-! ## Answers -/

/-- The nested comparisons of names with those of a path: the element at its end, or nothing
if a name differs.  Each pointer is followed for the name before it is looked at. -/
def descend : List (List UInt8) → Option Element → Except Fault (Option Element)
  | [], e => pure e
  | name :: names, e => do
    let e ← deref e
    if e.name = name then
      match names with
      | [] => pure (some e)
      | _ :: _ => descend names e.children.head?
    else pure none

/-- `App` with no member set -/
def App.zero : App := ⟨0, none, none, none⟩

/-- The loop over the children of the first icon. -/
def iconParam (app : App) (param : Element) : App :=
  if param.name = ascii "url" then { app with iconPath := some param.content } else app

/-- The loop over the children of an `app`. -/
def appParam (app : App) (param : Element) : App :=
  let app := if param.name = ascii "appID" then
    { app with appID := (scanHex param.content).getD app.appID } else app
  let app := if param.name = ascii "name" then { app with name := some param.content } else app
  let app := if param.name = ascii "description" then
    { app with description := some param.content } else app
  if param.name = ascii "iconList" then
    (elementChildren param.children.head?).foldl iconParam app
  else app

/-- The application an element describes. -/
def appOf (appNode : Element) : App := appNode.children.foldl appParam App.zero

/-- The loop over the listed elements: a new node for each, linked in front if it is an
`app`. -/
def addApp (s : RemoteServer × AppHeap) (appNode : Element) : RemoteServer × AppHeap :=
  if appNode.name = ascii "app" then
    let (app, apps) := s.2.alloc ⟨appOf appNode, s.1.appList⟩
    ({ s.1 with appList := some app }, apps)
  else (s.1, (s.2.alloc ⟨App.zero, none⟩).2)

/-- `get_application_list_parse` -/
def getApplicationListParse (parse : Option (List UInt8) → Option Element)
    (s : RemoteServer × AppHeap) (content : Option (List UInt8)) :
    Except Fault (UInt8 × RemoteServer × AppHeap) := do
  let found ← descend [ascii "Envelope", ascii "Body", ascii "GetApplicationListResponse",
    ascii "AppListing"] (parse content)
  match found with
  | none => pure (0, s)
  | some appListing =>
    pure (0, (elementChildren (parse (some appListing.content))).foldl addApp s)

/-- `sscanf(appURI, "VNC://%[^:]:%hu", …)`: the fields that are stored. -/
def scanVncUri (uri : List UInt8) : Option (List UInt8) × Option UInt16 :=
  if ascii "VNC://" <+: uri then
    let ip := (uri.drop 6).takeWhile (· ≠ 58)
    if ip = [] then (none, none)
    else
      match uri.drop (6 + ip.length) with
      | 58 :: rest => (some ip, scanShort rest)
      | _ => (some ip, none)
  else (none, none)

/-- A text scanned into `vnc_ip`, an array of 32 bytes. -/
def storeVncIp (server : RemoteServer) : Option (List UInt8) → Except Fault RemoteServer
  | none => pure server
  | some ip => do
    let vncIp ← sprintfInto 32 ip
    pure { server with vncIp := vncIp }

/-- `launch_application_parse` -/
def launchApplicationParse (parse : Option (List UInt8) → Option Element) (server : RemoteServer)
    (content : Option (List UInt8)) : Except Fault (UInt8 × RemoteServer) := do
  let found ← descend [ascii "Envelope", ascii "Body", ascii "LaunchApplicationResponse",
    ascii "AppURI"] (parse content)
  match found with
  | none => pure (0, server)
  | some appUri => do
    let fields := scanVncUri appUri.content
    let server ← storeVncIp server fields.1
    match fields.2 with
    | some port => pure (0, { server with vncPort := port })
    | none => pure (1, server)

/-! ## Requests -/

/-- `SERVICE_TYPE_APP` -/
def serviceTypeApp : Fin 3 := 0

/-- `SERVICE_TYPE_CLP` -/
def serviceTypeClp : Fin 3 := 1

/-- The names of the services, as an action gives them. -/
def serviceName (stype : Fin 3) : List UInt8 :=
  if stype = serviceTypeApp then ascii "TmApplicationServer:1"
  else if stype = serviceTypeClp then ascii "TmClientProfile:1"
  else ascii "TmNotificationServer:1"

/-- The `SOAPACTION` header. -/
def soapAction (stype : Fin 3) (action : List UInt8) : List UInt8 :=
  ascii "SOAPACTION: \"urn:schemas-upnp-org:service:" ++ serviceName stype ++ ascii "#" ++ action ++
    ascii "\"\r\n"

/-- The beginning of the envelope. -/
def envelopeBegin (stype : Fin 3) (action : List UInt8) : List UInt8 :=
  ascii "<?xml version=\"1.0\"?>" ++
    ascii "<s:Envelope xmlns:s=\"http://schemas.xmlsoap.org/soap/envelope/\" " ++
    ascii "s:encodingStyle=\"http://schemas.xmlsoap.org/soap/encoding/\">" ++
    ascii "<s:Body>" ++
    (ascii "<u:" ++ action ++ ascii " xmlns:u=\"urn:schemas-upnp-org:service:" ++
      serviceName stype ++ ascii "\">")

/-- The end of the envelope. -/
def envelopeEnd (action : List UInt8) : List UInt8 :=
  ascii "</u:" ++ action ++ ascii ">" ++ ascii "</s:Body>" ++ ascii "</s:Envelope>"

/-- The request of an action. -/
def actionRequest (server : RemoteServer) (stype : Fin 3) (action args : List UInt8) :
    Except Fault HttpReq := do
  let path ← deref (server.sinfo stype).curl
  let rq := httpClientMakeReq (ascii "POST") path
  let rq := httpClientAddHeader rq []
  let rq := httpClientAddHeader rq (ascii "CONTENT-TYPE: text/xml; charset=\"utf-8\"\r\n")
  let header ← sprintfInto 300 (soapAction stype action)
  let rq := httpClientAddHeader rq header
  let envelope ← sprintfInto 300 (envelopeBegin stype action)
  let req := strAppend (strAppend none envelope) args
  let envelope ← sprintfInto 300 (envelopeEnd action)
  pure (httpClientSetBody rq ((strAppend req envelope).getD [])).2

/-- The `switch` over the status of a response. -/
def actOn {σ : Type} (handler : Option (List UInt8) → Except Fault (UInt8 × σ)) (s : σ) :
    Option HttpRsp → Except Fault (UInt16 × σ)
  | none => pure (0, s)
  | some rsp =>
    if rsp.errcode = 200 then do
      let (code, s) ← handler rsp.body
      pure (if code ≠ 0 then 200 else 0, s)
    else pure (rsp.errcode, s)

/-- `remote_server_invoke_action`, with the handler's result in place of `server`. -/
def invokeAction {σ : Type} (server : RemoteServer) (stype : Fin 3) (action args : List UInt8)
    (handler : Option (List UInt8) → Except Fault (UInt8 × σ)) (s : σ) (reply : Reply) :
    Except Fault (UInt16 × σ) := do
  let rq ← actionRequest server stype action args
  let ip ← deref server.ip
  let rp ← httpExchange ip server.port rq reply
  actOn handler s rp

/-- The arguments of `GetApplicationList`. -/
def listArgs (filter : List UInt8) (pid : UInt32) : List UInt8 :=
  ascii "<AppListingFilter>" ++ filter ++ ascii "</AppListingFilter><ProfileID>" ++
    decimalInt pid ++ ascii "</ProfileID>"

/-- `remote_server_get_application_list` -/
def remoteServerGetApplicationList (parse : Option (List UInt8) → Option Element)
    (server : RemoteServer) (apps : AppHeap) (pid : UInt32) (filter : List UInt8) (reply : Reply) :
    Except Fault (UInt16 × RemoteServer × AppHeap) := do
  let args ← sprintfInto 100 (listArgs filter pid)
  invokeAction server serviceTypeApp (ascii "GetApplicationList") args
    (getApplicationListParse parse (server, apps)) (server, apps) reply

/-- The arguments of `LaunchApplication`. -/
def launchArgs (appid pid : UInt32) : List UInt8 :=
  ascii "<AppID>0x" ++ hex08 appid ++ ascii "</AppID><ProfileID>" ++ decimalInt pid ++
    ascii "</ProfileID>"

/-- `remote_server_launch_application` -/
def remoteServerLaunchApplication (parse : Option (List UInt8) → Option Element)
    (server : RemoteServer) (appid pid : UInt32) (reply : Reply) :
    Except Fault (UInt16 × RemoteServer) := do
  let args ← sprintfInto 100 (launchArgs appid pid)
  invokeAction server serviceTypeApp (ascii "LaunchApplication") args
    (launchApplicationParse parse server) server reply

/-- `set_client_profile_parse` -/
def setClientProfileParse (server : RemoteServer) (_content : Option (List UInt8)) :
    Except Fault (UInt8 × RemoteServer) :=
  pure (0, server)

/-- `profile` -/
def clientProfile : List UInt8 :=
  ["<ClientProfile>", "<?xml version=\"1.0\" encoding=\"UTF-8\"?>", "<clientProfile>",
    "<clientID>Cl_1</clientID>", "<friendlyName>Client One</friendlyName>",
    "<manufacturer>man_2</manufacturer>", "<modelName>CL_Model2</modelName>",
    "<modelNumber>2009</modelNumber>", "<iconPreference>", "<mimetype>image/png</mimetype>",
    "<width>240</width>", "<height>240</height>", "<depth>24</depth>", "</iconPreference>",
    "<connectivity>", "<bluetooth>", "<bdAddr>1A2B3C4D5E6F</bdAddr>",
    "<startConnection>false</startConnection>", "</bluetooth>", "</connectivity>",
    "<rtpStreaming>", "<payloadType>0,99</payloadType>", "<audioIPL>4800</audioIPL>",
    "<audioMPL>9600</audioMPL>", "</rtpStreaming>", "<services>", "<notification>",
    "<notiUiSupport>true</notiUiSupport>", "<maxActions>3</maxActions>",
    "<actionNameMaxLength>15</actionNameMaxLength>",
    "<notiTitleMaxLength>25</notiTitleMaxLength>", "<notiBodyMaxLength>100</notiBodyMaxLength>",
    "</notification>", "</services>", "<mirrorLinkVersion>", "<majorVersion>1</majorVersion>",
    "<minorVersion>1</minorVersion>", "</mirrorLinkVersion>", "<misc>",
    "<driverDistractionSupport>true</driverDistractionSupport>", "</misc>", "</clientProfile>",
    "</ClientProfile>"].flatMap ascii

/-- The first argument of `SetClientProfile`. -/
def profileId (pid : UInt32) : List UInt8 :=
  ascii "<ProfileID>" ++ decimalInt pid ++ ascii "</ProfileID>"

/-- `remote_server_set_client_profile` -/
def remoteServerSetClientProfile (server : RemoteServer) (pid : UInt32) (reply : Reply) :
    Except Fault (UInt16 × RemoteServer) := do
  let buf ← sprintfInto 50 (profileId pid)
  let param := strAppend (strAppend none buf) clientProfile
  invokeAction server serviceTypeClp (ascii "SetClientProfile") (param.getD [])
    (setClientProfileParse server) server reply

end MirrorLink.Program
