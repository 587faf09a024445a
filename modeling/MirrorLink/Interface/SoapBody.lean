import MirrorLink.Library.Utf8
import MirrorLink.Library.Xml
import MirrorLink.Program.Actions

/-!
# The body of a request, as XML

The body of an action is a document in UTF-8: an envelope, in it a body, and in this the element
of the action, whose children are its arguments.
-/

set_option autoImplicit false

namespace MirrorLink.Program

open MirrorLink.Library

/-- The document carries the arguments of the action, each a name and the bytes of a value, and
nothing else. -/
def Carries (root : XmlElement) (action : List Char)
    (arguments : List (List Char × List UInt8)) : Prop :=
  root.name = "s:Envelope".toList ∧ ∃ body element, root.children.head? = some body ∧
    body.name = "s:Body".toList ∧ body.children.head? = some element ∧
    element.name = "u:".toList ++ action ∧
    element.children.map (fun e => (e.name, utf8 e.text)) = arguments

/-- The request has a body that is a document with these arguments. -/
def ReadsBack (request : Except Fault HttpReq) (action : List Char)
    (arguments : List (List Char × List UInt8)) : Prop :=
  ∃ rq body text root, request = .ok rq ∧ rq.body = some body ∧ utf8 text = body ∧
    readXml text = some root ∧ Carries root action arguments

/-- The bytes are a text that stands for itself between two tags. -/
def PlainText (bytes : List UInt8) : Prop :=
  ∃ text, utf8 text = bytes ∧ carriageReturn ∉ text ∧ ¬ [']', ']', '>'] <:+: text ∧
    ∀ c ∈ text, isXmlChar c = true ∧ c ≠ '<' ∧ c ≠ '&'

/-- The request that `remote_server_get_application_list` makes. -/
def applicationListRequest (server : RemoteServer) (pid : UInt32) (filter : List UInt8) :
    Except Fault HttpReq := do
  let args ← sprintfInto 100 (listArgs filter pid)
  actionRequest server serviceTypeApp (ascii "GetApplicationList") args

/-- The request that `remote_server_launch_application` makes. -/
def launchRequest (server : RemoteServer) (appid pid : UInt32) : Except Fault HttpReq := do
  let args ← sprintfInto 100 (launchArgs appid pid)
  actionRequest server serviceTypeApp (ascii "LaunchApplication") args

/-- The request that `remote_server_set_client_profile` makes. -/
def clientProfileRequest (server : RemoteServer) (pid : UInt32) : Except Fault HttpReq := do
  let buf ← sprintfInto 50 (profileId pid)
  let param := strAppend (strAppend none buf) clientProfile
  actionRequest server serviceTypeClp (ascii "SetClientProfile") (param.getD [])

/-- What `remote_server_invoke_action` does with the request it has made. -/
def sendRequest {σ : Type} (server : RemoteServer)
    (handler : Option (List UInt8) → Except Fault (UInt8 × σ)) (s : σ) (reply : Reply)
    (rq : HttpReq) : Except Fault (UInt16 × σ) := do
  let ip ← deref server.ip
  let rp ← httpExchange ip server.port rq reply
  actOn handler s rp

/-- A listing is asked for by its request. -/
theorem remoteServerGetApplicationList_eq (parse : Option (List UInt8) → Option Element)
    (server : RemoteServer) (apps : AppHeap) (pid : UInt32) (filter : List UInt8)
    (reply : Reply) :
    remoteServerGetApplicationList parse server apps pid filter reply =
      applicationListRequest server pid filter >>= sendRequest server
        (getApplicationListParse parse (server, apps)) (server, apps) reply := by
  rw [applicationListRequest, bind_assoc]
  rfl

/-- A launch is asked for by its request. -/
theorem remoteServerLaunchApplication_eq (parse : Option (List UInt8) → Option Element)
    (server : RemoteServer) (appid pid : UInt32) (reply : Reply) :
    remoteServerLaunchApplication parse server appid pid reply =
      launchRequest server appid pid >>= sendRequest server
        (launchApplicationParse parse server) server reply := by
  rw [launchRequest, bind_assoc]
  rfl

/-- A profile is set by its request. -/
theorem remoteServerSetClientProfile_eq (server : RemoteServer) (pid : UInt32) (reply : Reply) :
    remoteServerSetClientProfile server pid reply =
      clientProfileRequest server pid >>= sendRequest server
        (setClientProfileParse server) server reply := by
  rw [clientProfileRequest, bind_assoc]
  rfl

end MirrorLink.Program
