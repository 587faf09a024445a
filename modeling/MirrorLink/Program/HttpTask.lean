import MirrorLink.Interface.HttpRequest
import MirrorLink.Program.HttpCalls

/-!
# `UI/http_client.c`, call by call

The functions of `str.c`, `buffer.c` and `http_client.c`, and `conn_read_all`, with every use
they make of memory and of the system, in their order.  Texts are known by their addresses; what
is scanned is what is found in the buffer.

A call of `conn_read_all` has at most `turns` calls of `select` and `read`, and a response at
most `calls` calls of `conn_read_all`: a program that has not returned then returns nothing.
-/

set_option autoImplicit false

namespace MirrorLink.Program.HttpTask

open MirrorLink.Library Interaction

def calloc (n : ℕ) : HttpTask ℕ := call (HttpCall.calloc n)

def callocReq : HttpTask ℕ := call HttpCall.callocReq

def callocRsp : HttpTask ℕ := call HttpCall.callocRsp

def text (str : Option ℕ) : HttpTask (List UInt8) := call (HttpCall.text str)

def strcpy (a offset : ℕ) (s : List UInt8) : HttpTask Unit := call (HttpCall.strcpy a offset s)

def memcpy (a : ℕ) (b : Option ℕ) (n : ℕ) : HttpTask Unit := call (HttpCall.memcpy a b n)

def loadReq (a : ℕ) : HttpTask ReqMembers := call (HttpCall.loadReq a)

def storeReq (a : ℕ) (members : ReqMembers) : HttpTask Unit := call (HttpCall.storeReq a members)

def loadRsp (a : ℕ) : HttpTask RspMembers := call (HttpCall.loadRsp a)

def storeRsp (a : ℕ) (members : RspMembers) : HttpTask Unit := call (HttpCall.storeRsp a members)

def sprintf (size : ℕ) (line : List UInt8) : HttpTask (List UInt8) :=
  call (HttpCall.sprintf size line)

def connOpen (ip : List UInt8) (port : UInt16) : HttpTask ℤ := call (HttpCall.connOpen ip port)

def connWrite (fd : ℤ) (data : List UInt8) : HttpTask Unit := call (HttpCall.connWrite fd data)

def connClose (fd : ℤ) : HttpTask Unit := call (HttpCall.connClose fd)

def select (fd : ℤ) (rfds efds : Bool) : HttpTask SelectAnswer :=
  call (HttpCall.select fd rfds efds)

def read (fd : ℤ) (buf : Option ℕ) (offset : ℕ) : HttpTask ReadAnswer :=
  call (HttpCall.read fd buf offset)

/-- `free`, also of a null pointer. -/
def free : Option ℕ → HttpTask Unit
  | none => pure ()
  | some a => call (HttpCall.free a)

/-! ## `str.c` -/

/-- The text of a `str_t` that may be null. -/
def textOrEmpty : Option ℕ → HttpTask (List UInt8)
  | none => pure []
  | some a => text (some a)

/-- `if (lo) strcpy(buf, *str)` -/
def copyOld (buf : ℕ) (lo : UInt32) (str : Option ℕ) : HttpTask Unit :=
  if lo = 0 then pure ()
  else do
    let old ← text str
    strcpy buf 0 old

/-- `str_append` -/
def strAppend (str : Option ℕ) (tail : List UInt8) : HttpTask (Option ℕ) := do
  let old ← textOrEmpty str
  let lo := strlen32 old
  let ln := strlen32 tail
  if ln = 0 then pure str
  else do
    let buf ← calloc (lo + ln + 1).toNat
    copyOld buf lo str
    strcpy buf lo.toNat tail
    free str
    pure (some buf)

/-! ## `buffer.c` -/

/-- `buffer` -/
structure HttpBuffer where
  buf : Option ℕ
  size : UInt32
  len : UInt32
  deriving DecidableEq, Repr

/-- `buffer_init(&rbuf, 0)` -/
def bufferInit : HttpBuffer := ⟨none, 0, 0⟩

/-- `buffer_append` -/
def bufferAppend (b : HttpBuffer) (size : UInt32) : HttpTask HttpBuffer :=
  if size + b.len > b.size then do
    let a ← calloc (size + b.len).toNat
    memcpy a b.buf b.len.toNat
    free b.buf
    pure ⟨some a, size + b.len, b.len⟩
  else pure b

/-- `buffer_clear` -/
def bufferClear (b : HttpBuffer) : HttpTask Unit := free b.buf

/-! ## `conn_read_all` -/

/-- `conn_read_all` from a phase on: its code and the buffer. -/
def connReadAll (fd : ℤ) : ℕ → ConnPhase → HttpBuffer → HttpTask (Option (ℤ × HttpBuffer))
  | 0, _, _ => pure none
  | turns + 1, .selecting inRfds inEfds, b => do
    match ← select fd inRfds inEfds with
    | .ready readable exceptional =>
      let rfds := inRfds && readable
      let efds := inEfds && exceptional
      if !rfds && !efds then pure (some (-2, b))
      else if efds then pure (some (-1, b))
      else do
        let b ← bufferAppend b 1024
        connReadAll fd turns .reading b
    | .interrupted => connReadAll fd turns (.selecting inRfds inEfds) b
    | .failed => pure (some (-1, b))
  | turns + 1, .reading, b => do
    match ← read fd b.buf b.len.toNat with
    | .data piece => do
      let b ← bufferAppend { b with len := b.len + UInt32.ofNat piece.bytes.length } 1024
      connReadAll fd turns .reading b
    | .endOfFile => pure (some (-3, b))
    | .wouldBlock => pure (some (0, b))
    | .interrupted => connReadAll fd turns .reading b
    | .failed => connReadAll fd turns (.selecting true false) b

/-! ## The request -/

/-- `http_client_make_req` -/
def httpClientMakeReq (method path : List UInt8) : HttpTask ℕ := do
  let req ← callocReq
  let members ← loadReq req
  let method ← strAppend members.method method
  storeReq req { members with method := method }
  let members ← loadReq req
  let path ← strAppend members.path path
  storeReq req { members with path := path }
  pure req

/-- `http_client_add_header` -/
def httpClientAddHeader (req : ℕ) (header : List UInt8) : HttpTask Unit := do
  let members ← loadReq req
  let header ← strAppend members.header header
  storeReq req { members with header := header }

/-- `http_client_set_body` -/
def httpClientSetBody (req : ℕ) (body : List UInt8) : HttpTask ℤ := do
  let members ← loadReq req
  let method ← text members.method
  if method ≠ ascii "GET" then do
    let body ← strAppend members.body body
    storeReq req { members with body := body }
    pure 0
  else pure (-1)

/-- `str_append(&wbuf, member)`, if the member is not null -/
def appendMember (wbuf member : Option ℕ) : HttpTask (Option ℕ) :=
  match member with
  | none => pure wbuf
  | some a => do
    let tail ← text (some a)
    strAppend wbuf tail

/-- The `Content-Length` of a request with a body. -/
def addLength (req : ℕ) : HttpTask Unit := do
  let members ← loadReq req
  match members.body with
  | none => pure ()
  | some a => do
    let body ← text (some a)
    let line ← sprintf 100 (ascii "Content-Length:" ++ decimalInt (strlen32 body) ++ ascii "\r\n")
    let header ← strAppend members.header line
    storeReq req { members with header := header }

/-- The request line and the `Host` line. -/
def writeLines (ip : List UInt8) (port : UInt16) (req : ℕ) : HttpTask (Option ℕ) := do
  let members ← loadReq req
  let method ← text members.method
  let path ← text members.path
  let line ← sprintf 100 (method ++ ascii " " ++ path ++ ascii " HTTP/1.0\r\n")
  let wbuf ← strAppend none line
  let line ← sprintf 100 (ascii "Host: " ++ ip ++ ascii ":" ++ decimal port.toNat ++ ascii "\r\n")
  strAppend wbuf line

/-- The part of `http_client_send` that makes `wbuf`. -/
def writeRequest (ip : List UInt8) (port : UInt16) (req : ℕ) : HttpTask (Option ℕ) := do
  let wbuf ← writeLines ip port req
  addLength req
  let members ← loadReq req
  let wbuf ← appendMember wbuf members.header
  let wbuf ← strAppend wbuf (ascii "\r\n")
  let method ← text members.method
  appendMember wbuf (if method = ascii "POST" then members.body else none)

/-- The part that frees the request. -/
def freeRequest (req : ℕ) : HttpTask Unit := do
  let members ← loadReq req
  free members.method
  free members.body
  free members.header
  free members.path
  free (some req)

/-! ## The response -/

/-- What follows the header: whether the loop is left. -/
def scanBody (rsp : ℕ) (pos : List UInt8) : HttpTask Bool :=
  match scanContentLength pos with
  | none => pure false
  | some len =>
    if 0 < len then
      match strstr (ascii "\r\n\r\n") pos with
      | none => pure false
      | some blank =>
        let body := blank.drop 4
        if len.toNat ≤ body.length then do
          let members ← loadRsp rsp
          let body ← strAppend members.body body
          storeRsp rsp { members with body := body }
          pure true
        else pure false
    else pure true

/-- The scan of everything read so far: whether the loop is left. -/
def scanResponse (rsp : ℕ) (rbuf : HttpBuffer) : HttpTask Bool := do
  let pos ← text rbuf.buf
  match sscanf (directives "HTTP/1.%1d %3d %*s\r\n".toList) pos with
  | .int _ :: .int errcode :: _ => do
    let members ← loadRsp rsp
    storeRsp rsp { members with errcode := UInt16.ofInt errcode }
    match findContentLength pos with
    | none => pure false
    | some pos => scanBody rsp pos
  | _ => pure false

/-- The loop `while (0 == quit)`. -/
def receive (turns : ℕ) (fd : ℤ) (rsp : ℕ) : ℕ → HttpBuffer → HttpTask (Option HttpBuffer)
  | 0, _ => pure none
  | calls + 1, rbuf => do
    match ← connReadAll fd turns (.selecting true true) rbuf with
    | none => pure none
    | some (quit, rbuf) =>
      if rbuf.len = 0 then
        if quit = 0 then receive turns fd rsp calls rbuf else pure (some rbuf)
      else do
        let rbuf ← bufferAppend rbuf 1
        if ← scanResponse rsp rbuf then pure (some rbuf)
        else if quit = 0 then receive turns fd rsp calls rbuf
        else pure (some rbuf)

/-- A response without a status is freed. -/
def keepResponse (rsp : ℕ) : HttpTask (Option ℕ) := do
  let members ← loadRsp rsp
  if members.errcode = 0 then do
    free (some rsp)
    pure none
  else pure (some rsp)

/-- `http_client_send`; nothing if it has not returned. -/
def httpClientSend (turns calls : ℕ) (ip : List UInt8) (port : UInt16) (req : ℕ) :
    HttpTask (Option (Option ℕ)) := do
  let fd ← connOpen ip port
  if fd < 0 then pure (some none)
  else do
    let wbuf ← writeRequest ip port req
    freeRequest req
    let data ← text wbuf
    connWrite fd (data.take (strlen32 data).toNat)
    let rsp ← callocRsp
    match ← receive turns fd rsp calls bufferInit with
    | none => pure none
    | some rbuf => do
      let rsp ← keepResponse rsp
      free wbuf
      bufferClear rbuf
      connClose fd
      pure (some rsp)

end MirrorLink.Program.HttpTask
