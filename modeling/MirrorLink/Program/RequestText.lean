import MirrorLink.Program.RemoteServer

/-!
# Requests, with their lengths in 32 bits

`str_append` keeps the lengths of its two texts in `uint32_t`s, so that the memory it allocates
may be too small for them, and `http_client_send` prints the length of the body as an `int`.
The rest of the client's model takes requests as `requestText` writes them, which is what comes
out here for a request that is short enough.
-/

set_option autoImplicit false

namespace MirrorLink.Program

open MirrorLink.Library

/-- `uint32_t n = strlen(text)` -/
def strlen32 (text : List UInt8) : UInt32 := UInt32.ofNat text.length

/-- `str_append` -/
def strAppend32 (str : Option (List UInt8)) (tail : List UInt8) :
    Except Fault (Option (List UInt8)) :=
  let old := str.getD []
  let lo := strlen32 old
  let ln := strlen32 tail
  if ln = 0 then pure str
  else
    -- `calloc(1, lo + ln + 1)`, and one byte more than its length for each `strcpy`
    let size := lo + ln + 1
    if lo ≠ 0 ∧ size.toNat ≤ old.length then throw .overflow
    else if size.toNat ≤ lo.toNat + tail.length then throw .overflow
    else pure (some (old.take lo.toNat ++ tail))

/-- `http_req` -/
structure HttpReq32 where
  method : Option (List UInt8)
  path : Option (List UInt8)
  header : Option (List UInt8)
  body : Option (List UInt8)

/-- `http_client_make_req` -/
def httpClientMakeReq32 (method path : List UInt8) : Except Fault HttpReq32 := do
  let method ← strAppend32 none method
  let path ← strAppend32 none path
  pure ⟨method, path, none, none⟩

/-- `http_client_add_header` -/
def httpClientAddHeader32 (req : HttpReq32) (header : List UInt8) : Except Fault HttpReq32 := do
  let header ← strAppend32 req.header header
  pure { req with header := header }

/-- `http_client_set_body` -/
def httpClientSetBody32 (req : HttpReq32) (body : List UInt8) : Except Fault (ℤ × HttpReq32) := do
  let method ← deref req.method
  if method ≠ ascii "GET" then do
    let body ← strAppend32 req.body body
    pure (0, { req with body := body })
  else pure (-1, req)

/-- The bytes that `http_client_send` hands to `conn_write`. -/
def requestText32 (ip : List UInt8) (port : UInt16) (req : HttpReq32) :
    Except Fault (List UInt8) := do
  let method ← deref req.method
  let path ← deref req.path
  let requestLine ← sprintfInto 100 (method ++ ascii " " ++ path ++ ascii " HTTP/1.0\r\n")
  let wbuf ← strAppend32 none requestLine
  let hostLine ← sprintfInto 100 (ascii "Host: " ++ ip ++ ascii ":" ++ decimal port.toNat ++
    ascii "\r\n")
  let wbuf ← strAppend32 wbuf hostLine
  let header ← req.body.elim (pure req.header) fun body => do
    let line ← sprintfInto 100 (ascii "Content-Length:" ++ decimalInt (strlen32 body) ++
      ascii "\r\n")
    strAppend32 req.header line
  let wbuf ← header.elim (pure wbuf) (strAppend32 wbuf)
  let wbuf ← strAppend32 wbuf (ascii "\r\n")
  let wbuf ← (if method = ascii "POST" then req.body else none).elim (pure wbuf) (strAppend32 wbuf)
  let wbuf ← deref wbuf
  pure (wbuf.take (strlen32 wbuf).toNat)

end MirrorLink.Program
