import MirrorLink.Library.Scanf
import MirrorLink.Library.Text
import MirrorLink.Program.Conn

/-!
# The HTTP client: `UI/http_client.c` and `UI/str.c`

`http_client_send` writes a request and then calls `conn_read_all` until what it has read so
far has a status, a `Content-Length` and at least that many bytes behind the first blank
line after it.  Everything read so far is scanned again each time, from the start, as a text
that ends at its first zero byte.
-/

set_option autoImplicit false

namespace MirrorLink.Program

open MirrorLink.Library

/-- `str_append`: a text that may be absent, and stays so if nothing is appended. -/
def strAppend (str : Option (List UInt8)) (tail : List UInt8) : Option (List UInt8) :=
  if tail.length = 0 then str else some (str.getD [] ++ tail)

/-- Appending lengthens the text, null being empty. -/
theorem getD_strAppend (str : Option (List UInt8)) (tail : List UInt8) :
    (strAppend str tail).getD [] = str.getD [] ++ tail := by
  unfold strAppend
  split
  next h => rw [List.length_eq_zero_iff.mp h, List.append_nil]
  next => rfl

/-- By the length of what is appended. -/
theorem length_strAppend (str : Option (List UInt8)) (tail : List UInt8) :
    ((strAppend str tail).getD []).length = (str.getD []).length + tail.length := by
  rw [getD_strAppend, List.length_append]

/-- Appending twice is appending both. -/
theorem strAppend_strAppend (head : Option (List UInt8)) (t t' : List UInt8) :
    strAppend (strAppend head t) t' = strAppend head (t ++ t') := by
  rcases t with _ | ⟨b, t⟩
  · rfl
  · rcases t' with _ | ⟨b', t'⟩
    · rw [List.append_nil]
      rfl
    · show some (head.getD [] ++ b :: t ++ b' :: t') = some (head.getD [] ++ (b :: t ++ b' :: t'))
      rw [List.append_assoc]

/-- Appending nothing leaves even null. -/
theorem strAppend_nil (head : Option (List UInt8)) : strAppend head [] = head := rfl

/-- Appending to a text. -/
theorem strAppend_some (text tail : List UInt8) :
    strAppend (some text) tail = some (text ++ tail) := by
  unfold strAppend
  split_ifs with htail
  · rw [List.eq_nil_of_length_eq_zero htail, List.append_nil]
  · rfl

/-- A text that is appended to null is the text. -/
theorem strAppend_none {text : List UInt8} (h : text ≠ []) : strAppend none text = some text :=
  if_neg (mt List.eq_nil_of_length_eq_zero h)

/-- What is appended to null is known from the result. -/
theorem strAppend_none_inj {t t' : List UInt8} (h : strAppend none t = strAppend none t') :
    t = t' := by
  unfold strAppend at h
  split_ifs at h with ht ht' ht'
  · rw [List.eq_nil_of_length_eq_zero ht, List.eq_nil_of_length_eq_zero ht']
  · simpa using h

/-! ## The request -/

structure HttpReq where
  method : List UInt8
  path : List UInt8
  header : Option (List UInt8)
  body : Option (List UInt8)

/-- `http_client_make_req` -/
def httpClientMakeReq (method path : List UInt8) : HttpReq := ⟨method, path, none, none⟩

/-- `http_client_add_header` -/
def httpClientAddHeader (req : HttpReq) (header : List UInt8) : HttpReq :=
  { req with header := strAppend req.header header }

/-- `http_client_set_body` -/
def httpClientSetBody (req : HttpReq) (body : List UInt8) : ℤ × HttpReq :=
  if req.method ≠ ascii "GET" then (0, { req with body := strAppend req.body body })
  else (-1, req)

/-- `sprintf(buf, …)` into the array of 100 bytes; nothing if the line does not fit. -/
def sprintfBuf (line : List UInt8) : Option (List UInt8) :=
  if line.length < 100 then some line else none

/-- The text that is written.  The method, the path and the address are not empty, and the
body is shorter than 2^31 bytes. -/
def requestText (ip : List UInt8) (port : UInt16) (req : HttpReq) : Option (List UInt8) := do
  let requestLine ← sprintfBuf (req.method ++ ascii " " ++ req.path ++ ascii " HTTP/1.0\r\n")
  let hostLine ← sprintfBuf (ascii "Host: " ++ ip ++ ascii ":" ++ decimal port.toNat ++
    ascii "\r\n")
  let header ← match req.body with
    | some body => do
      let line ← sprintfBuf (ascii "Content-Length:" ++ decimal body.length ++ ascii "\r\n")
      pure (strAppend req.header line)
    | none => pure req.header
  let body := if req.method = ascii "POST" then req.body.getD [] else []
  pure (requestLine ++ hostLine ++ header.getD [] ++ ascii "\r\n" ++ body)

/-! ## The response -/

structure HttpRsp where
  errcode : UInt16
  body : Option (List UInt8)
  deriving DecidableEq

/-- `calloc(1, sizeof(*rsp))` -/
def HttpRsp.zero : HttpRsp := ⟨0, none⟩

/-- The text from the header on, spelled in one of two ways. -/
def findContentLength (text : List UInt8) : Option (List UInt8) :=
  match strstr (ascii "Content-Length:") text with
  | some pos => some pos
  | none => strstr (ascii "CONTENT-LENGTH:") text

/-- `len`, as it is read from the header. -/
def scanContentLength (pos : List UInt8) : Option UInt32 :=
  match sscanf (directives "Content-Length: %d\r\n".toList) pos with
  | .int len :: _ => some (storeInt len)
  | _ =>
    match sscanf (directives "CONTENT-LENGTH: %d\r\n".toList) pos with
    | .int len :: _ => some (storeInt len)
    | _ => none

/-- What follows the header: whether the loop is left, and with which body. -/
def scanBody (rsp : HttpRsp) (pos : List UInt8) : HttpRsp × Bool :=
  match scanContentLength pos with
  | none => (rsp, false)
  | some len =>
    if 0 < len then
      match strstr (ascii "\r\n\r\n") pos with
      | none => (rsp, false)
      | some blank =>
        let body := blank.drop 4
        if len.toNat ≤ body.length then ({ rsp with body := strAppend rsp.body body }, true)
        else (rsp, false)
    else (rsp, true)

/-- The scan of everything read so far. -/
def scanResponse (rsp : HttpRsp) (text : List UInt8) : HttpRsp × Bool :=
  match sscanf (directives "HTTP/1.%1d %3d %*s\r\n".toList) text with
  | .int _ :: .int errcode :: _ =>
    let rsp := { rsp with errcode := UInt16.ofInt errcode }
    match findContentLength text with
    | none => (rsp, false)
    | some pos => scanBody rsp pos
  | _ => (rsp, false)

/-- The loop `while (0 == quit)`, with the answers each call of `conn_read_all` meets.
Nothing if it does not end with these calls. -/
def receive (rsp : HttpRsp) (rbuf : Buffer) : List (List Answer) → Option HttpRsp
  | [] => none
  | answers :: calls =>
    match connReadAll (.selecting true true) rbuf answers with
    | none => none
    | some (quit, rbuf) =>
      if rbuf.len = 0 then
        if quit = 0 then receive rsp rbuf calls else some rsp
      else
        let rbuf := rbuf.append 1
        let (rsp, found) := scanResponse rsp (cstring rbuf.buf)
        if found then some rsp
        else if quit = 0 then receive rsp rbuf calls else some rsp

/-- What a call of `http_client_send` has written, and what it returns. -/
structure Exchange where
  written : Option (List UInt8)
  response : Option HttpRsp

/-- `http_client_send`, over a connection that is known by the answers the system gives to
its reads, or could not be opened. -/
def httpClientSend (ip : List UInt8) (port : UInt16) (req : HttpReq)
    (connection : Option (List (List Answer))) : Option Exchange :=
  match connection with
  | none => some ⟨none, none⟩
  | some calls => do
    let wbuf ← requestText ip port req
    let rsp ← receive HttpRsp.zero (Buffer.init 0) calls
    pure ⟨some wbuf, if rsp.errcode = 0 then none else some rsp⟩

end MirrorLink.Program
