import MirrorLink.Library.Scanf
import MirrorLink.Library.Text

/-!
# Service discovery: `UI/ssdp.cpp` and the clients of `UI/main.cpp`

The thread looks for three services with one multicast search each.  An answer is taken
apart line by line: the last line that begins with `ST: ` names the target it answers, the
last one that begins with `Location: ` the address.  `handleSsdpResp` copies the address
into the member of the `Context` that belongs to the target.
-/

set_option autoImplicit false

namespace MirrorLink.Program

open MirrorLink.Library

/-! ## The context of the thread -/

/-- The members of `Context`.  A client is known by its socket; of the pointer to the remote
server only whether it is set matters. -/
structure Context where
  serverState : ℕ
  remoteClients : List ℤ
  tmApplicationServer : List UInt8
  tmClientProfile : List UInt8
  tmServerDevice : List UInt8
  mServer : Bool
  deriving DecidableEq, Repr

namespace Context

/-- `calloc(1, sizeof (Context))` -/
def zero : Context := ⟨0, [], [], [], [], false⟩

/-- `add_client` -/
def addClient (context : Context) (sockFd : ℤ) : Context :=
  { context with remoteClients := context.remoteClients ++ [sockFd] }

/-- `remove_client` on the list of sockets: the first one goes. -/
def eraseClient (context : Context) (sockFd : ℤ) : Context :=
  { context with remoteClients := context.remoteClients.erase sockFd }

end Context

/-! ## Searches -/

/-- `TM_TAS` -/
def tmTas : List UInt8 := ascii "urn:schemas-upnp-org:service:TmApplicationServer:1"

/-- `TM_TCP` -/
def tmTcp : List UInt8 := ascii "urn:schemas-upnp-org:service:TmClientProfile:1"

/-- `TM_TSD` -/
def tmTsd : List UInt8 := ascii "urn:schemas-upnp-org:device:TmServerDevice:1"

/-- The three search targets, in the order they are searched for. -/
def searchTargets : List (List UInt8) := [tmTas, tmTcp, tmTsd]

/-- `create_ssdp_message` -/
def createSsdpMessage (searchTarget : List UInt8) : List UInt8 :=
  ascii "M-SEARCH * HTTP/1.1\r\n" ++ ascii "HOST: 239.255.255.250:1900\r\n" ++
    ascii "MAN: \"ssdp:discover\"\r\n" ++ ascii "MX: 1\r\n" ++
    (ascii "ST: " ++ searchTarget ++ ascii "\r\n") ++ ascii "\r\n"

/-! ## Answers -/

/-- What the lines of an answer say: the arrays `st` and `location`. -/
structure SsdpResp where
  st : List UInt8
  location : List UInt8
  deriving DecidableEq, Repr

/-- `sscanf(line, format, word)` for a format with one `%s` -/
def scanWord (format : String) (line word : List UInt8) : List UInt8 :=
  match sscanf (directives format.toList) line with
  | [.word found] => found
  | _ => word

/-- One turn of the loop over the lines.  A line is looked at if it has the word anywhere,
and read only if it begins with it. -/
def ssdpLine (resp : SsdpResp) (line : List UInt8) : SsdpResp :=
  if (strstr (ascii "ST: ") line).isSome then
    { resp with st := scanWord "ST: %s" line resp.st }
  else if (strstr (ascii "Location: ") line).isSome then
    { resp with location := scanWord "Location: %s" line resp.location }
  else resp

/-- The loop over the lines of an answer. -/
def parseSsdpResp (buffer : List UInt8) : SsdpResp :=
  (tokens 10 buffer).foldl ssdpLine ⟨[], []⟩

/-- `handle_ssdp_resp` -/
def handleSsdpResp (context : Context) (buffer : List UInt8) : Context :=
  let resp := parseSsdpResp buffer
  let context :=
    if resp.st = tmTas then { context with tmApplicationServer := resp.location } else context
  let context :=
    if resp.st = tmTcp then { context with tmClientProfile := resp.location } else context
  if resp.st = tmTsd then { context with tmServerDevice := resp.location } else context

/-- An answer changes neither the state nor the clients nor the server. -/
theorem handleSsdpResp_frame (context : Context) (buffer : List UInt8) :
    (handleSsdpResp context buffer).serverState = context.serverState ∧
      (handleSsdpResp context buffer).remoteClients = context.remoteClients ∧
      (handleSsdpResp context buffer).mServer = context.mServer := by
  unfold handleSsdpResp
  dsimp only
  split_ifs <;> exact ⟨rfl, rfl, rfl⟩

end MirrorLink.Program
