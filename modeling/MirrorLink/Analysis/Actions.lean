import MirrorLink.Program.MirrorLinkClient

/-!
# Actions and their answers

An action ends in one of three ways: nothing comes back, something with another status than
200, or a document for the handler (`invokeAction_cases`).  The handlers look for the element
at the end of a path (`descend_eq_some_iff`).

The last part says how little can go wrong outside the list of applications: a null pointer,
an array that is too short, an index.
-/

set_option autoImplicit false

namespace MirrorLink.Analysis

open MirrorLink.Library MirrorLink.Program

/-! ## Documents -/

/-- The element at the end of a path of names, through the first child at each level. -/
def elementAt : List (List UInt8) → Option Element → Option Element
  | [], _ => none
  | _ :: _, none => none
  | [name], some e => if e.name = name then some e else none
  | name :: names, some e => if e.name = name then elementAt names e.children.head? else none

/-- The element that is descended to is the one at the path. -/
theorem descend_eq_some_iff (name : List UInt8) (names : List (List UInt8))
    (root : Option Element) (target : Element) :
    descend (name :: names) root = .ok (some target) ↔
      elementAt (name :: names) root = some target := by
  induction names generalizing name root with
  | nil =>
    cases root with
    | none => simp [descend, deref, elementAt, bind_eq_ok]
    | some e =>
      show (if e.name = name then _ else _) = _ ↔ (if e.name = name then some e else none) = _
      by_cases hname : e.name = name
      · rw [if_pos hname, if_pos hname]
        simp [pure, Except.pure]
      · rw [if_neg hname, if_neg hname]
        simp [pure, Except.pure]
  | cons next names ih =>
    cases root with
    | none => simp [descend, deref, elementAt, bind_eq_ok]
    | some e =>
      show (if e.name = name then _ else _) = _ ↔
        (if e.name = name then elementAt (next :: names) e.children.head? else none) = _
      by_cases hname : e.name = name
      · rw [if_pos hname, if_pos hname]
        exact ih next e.children.head?
      · rw [if_neg hname, if_neg hname]
        simp [pure, Except.pure]

/-- Where the names come to nothing, there is no element at the end of the path. -/
theorem elementAt_of_descend_none {name : List UInt8} {names : List (List UInt8)}
    {root : Option Element} (h : descend (name :: names) root = .ok none) :
    elementAt (name :: names) root = none := by
  apply Option.eq_none_iff_forall_ne_some.mpr
  intro e hat
  have hdescend := (descend_eq_some_iff _ _ _ e).mpr hat
  rw [h] at hdescend
  cases hdescend

/-- Every pointer that is followed on the way down a path of names is there. -/
def Followable : List (List UInt8) → Option Element → Prop
  | [], _ => True
  | _ :: _, none => False
  | name :: names, some e => e.name = name → Followable names e.children.head?

/-- The descent goes wrong only at a child that is not there. -/
theorem exists_descend_iff (names : List (List UInt8)) (root : Option Element) :
    (∃ found, descend names root = .ok found) ↔ Followable names root := by
  induction names generalizing root with
  | nil => exact iff_of_true ⟨root, rfl⟩ trivial
  | cons name names ih =>
    cases root with
    | none =>
      refine iff_of_false ?_ id
      rintro ⟨found, h⟩
      cases h
    | some e =>
      show (∃ found, (if e.name = name then _ else _) = _) ↔ (e.name = name → _)
      by_cases hname : e.name = name
      · rw [if_pos hname, forall_prop_of_true hname, ← ih]
        cases names with
        | nil => exact iff_of_true ⟨some e, rfl⟩ ⟨_, rfl⟩
        | cons next names => exact Iff.rfl
      · rw [if_neg hname]
        exact iff_of_true ⟨none, rfl⟩ fun h => absurd h hname

/-! ## Requests -/

/-- The request of an action can be written, and the exchange brings `rp`. -/
def Brings (server : RemoteServer) (stype : Fin 3) (action args : List UInt8) (reply : Reply)
    (rp : Option HttpRsp) : Prop :=
  ∃ rq ip, actionRequest server stype action args = .ok rq ∧ server.ip = some ip ∧
    httpExchange ip server.port rq reply = .ok rp

/-- A pointer that is followed is not null. -/
theorem deref_eq_ok {α : Type} {o : Option α} {a : α} : deref o = .ok a ↔ o = some a := by
  cases o with
  | none =>
    constructor
    · intro h
      cases h
    · intro h
      cases h
  | some b =>
    constructor
    · intro h
      cases h
      rfl
    · intro h
      cases h
      rfl

variable {σ : Type} {server : RemoteServer} {stype : Fin 3} {action args : List UInt8}
  {handler : Option (List UInt8) → Except Fault (UInt8 × σ)} {s : σ} {reply : Reply}

/-- **An action** returns exactly if its exchange brings something the handler returns on. -/
theorem invokeAction_eq_ok {r : UInt16 × σ} :
    invokeAction server stype action args handler s reply = .ok r ↔
      ∃ rp, Brings server stype action args reply rp ∧ actOn handler s rp = .ok r := by
  unfold invokeAction Brings
  simp only [bind_eq_ok, deref_eq_ok]
  constructor
  · rintro ⟨rq, hrq, ip, hip, rp, hrp, h⟩
    exact ⟨rp, ⟨rq, ip, hrq, hip, hrp⟩, h⟩
  · rintro ⟨rp, ⟨rq, ip, hrq, hip, hrp⟩, h⟩
    exact ⟨rq, hrq, ip, hip, rp, hrp, h⟩

/-- An action whose exchange brings something goes on with it. -/
theorem Brings.invokeAction_eq {rp : Option HttpRsp}
    (h : Brings server stype action args reply rp) :
    invokeAction server stype action args handler s reply = actOn handler s rp := by
  obtain ⟨rq, ip, hrq, hip, hrp⟩ := h
  rw [invokeAction, hrq, hip]
  show (httpExchange ip server.port rq reply >>= _) = _
  rw [hrp]
  rfl

/-- What an exchange brings is the reply. -/
theorem Brings.reply_eq {rp : Option HttpRsp} (h : Brings server stype action args reply rp) :
    (rp = none ∧ (reply = .refused ∨ reply = .answered none)) ∨
      ∃ rsp, rp = some rsp.val ∧ reply = .answered (some rsp) := by
  obtain ⟨rq, ip, -, -, hrp⟩ := h
  cases reply with
  | refused =>
    cases hrp
    exact .inl ⟨rfl, .inl rfl⟩
  | answered rsp =>
    rw [httpExchange] at hrp
    cases htext : requestText ip server.port rq with
    | none =>
      rw [htext] at hrp
      cases hrp
    | some text =>
      rw [htext] at hrp
      cases rsp with
      | none =>
        cases hrp
        exact .inl ⟨rfl, .inr rfl⟩
      | some rsp =>
        cases hrp
        exact .inr ⟨rsp, rfl, rfl⟩

/-- An exchange brings the response it is answered with. -/
theorem Brings.eq_some {rp : Option HttpRsp} {rsp : {rsp : HttpRsp // rsp.errcode ≠ 0}}
    (h : Brings server stype action args (.answered (some rsp)) rp) : rp = some rsp.val := by
  rcases h.reply_eq with ⟨-, hnone | hnone⟩ | ⟨rsp', hrp, hsome⟩
  · cases hnone
  · cases hnone
  · cases hsome
    exact hrp

/-- An action goes wrong in its handler only on the document of a response. -/
theorem actOn_eq_error {rp : Option HttpRsp} {fault : Fault} :
    actOn handler s rp = .error fault ↔
      ∃ rsp, rp = some rsp ∧ rsp.errcode = 200 ∧ handler rsp.body = .error fault := by
  cases rp with
  | none =>
    constructor
    · intro h
      cases h
    · rintro ⟨rsp, hrp, -⟩
      cases hrp
  | some rsp =>
    rw [actOn]
    by_cases hcode : rsp.errcode = 200
    · rw [if_pos hcode, bind_eq_error]
      constructor
      · rintro (h | ⟨result, -, h⟩)
        · exact ⟨rsp, rfl, hcode, h⟩
        · cases h
      · rintro ⟨rsp', hrp, -, h⟩
        cases hrp
        exact .inl h
    · rw [if_neg hcode]
      constructor
      · intro h
        cases h
      · rintro ⟨rsp', hrp, hcode', -⟩
        cases hrp
        exact absurd hcode' hcode

/-! ## The lines of a request -/

/-- The request line and the `Host` line of a request fit into their array. -/
def LinesFit (method ip path : List UInt8) (port : UInt16) : Prop :=
  method.length + path.length < 88 ∧ ip.length + (decimal port.toNat).length < 91

/-- The request line has twelve characters besides the method and the path. -/
theorem length_requestLine (method path : List UInt8) :
    (method ++ ascii " " ++ path ++ ascii " HTTP/1.0\r\n").length =
      method.length + path.length + 12 := by
  refine (length_of_eq_formatted 12 [.slot method, .fixed " ", .slot path,
    .fixed " HTTP/1.0\r\n"] (by simp [formatted, FormatPart.bytes]) rfl).trans ?_
  simp only [slotLength]
  omega

/-- The host line has nine characters besides the host and the port. -/
theorem length_hostLine (ip : List UInt8) (port : UInt16) :
    (ascii "Host: " ++ ip ++ ascii ":" ++ decimal port.toNat ++ ascii "\r\n").length =
      ip.length + (decimal port.toNat).length + 9 := by
  refine (length_of_eq_formatted 9 [.fixed "Host: ", .slot ip, .fixed ":",
    .slot (decimal port.toNat), .fixed "\r\n"] (by simp [formatted, FormatPart.bytes]) rfl).trans ?_
  simp only [slotLength]
  omega

/-- The length line has seventeen characters besides the digits. -/
theorem length_contentLengthLine (digits : List UInt8) :
    (ascii "Content-Length:" ++ digits ++ ascii "\r\n").length = digits.length + 17 := by
  refine (length_of_eq_formatted 17 [.fixed "Content-Length:", .slot digits, .fixed "\r\n"]
    (by simp [formatted, FormatPart.bytes]) rfl).trans ?_
  simp only [slotLength]
  omega

/-- **The lines of a request** are the only texts of `http_client_send` that can be too long. -/
theorem requestText_eq_none_iff (ip : List UInt8) (port : UInt16) (req : HttpReq)
    (hbody : ∀ body, req.body = some body → body.length < 100000) :
    requestText ip port req = none ↔ ¬ LinesFit req.method ip req.path port := by
  have hline := length_requestLine req.method req.path
  have hhost := length_hostLine ip port
  have hlength : ∀ body, req.body = some body →
      (ascii "Content-Length:" ++ decimal body.length ++ ascii "\r\n").length < 100 := by
    intro body h
    have hdigits := (length_decimal_le_iff (n := body.length) (show 0 < 5 by decide)).mpr
      (hbody body h)
    rw [length_contentLengthLine]
    omega
  unfold requestText LinesFit sprintfBuf
  by_cases hrequest : req.method.length + req.path.length < 88
  · rw [if_pos (by omega)]
    by_cases hhostFits : ip.length + (decimal port.toNat).length < 91
    · rw [if_pos (by omega)]
      cases hb : req.body with
      | none => simp [hrequest, hhostFits]
      | some body =>
        have h := hlength body hb
        simp only [if_pos h]
        simp [hrequest, hhostFits]
    · rw [if_neg (by omega)]
      simp [hhostFits]
  · rw [if_neg (by omega)]
    simp [hrequest]

/-- The request line and the `Host` line are only written over a connection. -/
theorem httpExchange_eq_overflow (ip : List UInt8) (port : UInt16) (req : HttpReq) (reply : Reply)
    (hbody : ∀ body, req.body = some body → body.length < 100000) :
    httpExchange ip port req reply = .error .overflow ↔
      reply ≠ .refused ∧ ¬ LinesFit req.method ip req.path port := by
  cases reply with
  | refused =>
    constructor
    · intro h
      cases h
    · intro h
      exact absurd rfl h.1
  | answered rsp =>
    rw [httpExchange, ← requestText_eq_none_iff ip port req hbody]
    cases requestText ip port req with
    | none => simp [throw, throwThe, MonadExceptOf.throw]
    | some text => simp [pure, Except.pure]

/-- **An exchange returns** exactly if its two formatted lines fit their arrays. -/
theorem httpExchange_returns_iff (ip : List UInt8) (port : UInt16) (req : HttpReq) (reply : Reply)
    (hbody : ∀ body, req.body = some body → body.length < 100000) :
    (∃ rp, httpExchange ip port req reply = .ok rp) ↔
      (reply ≠ .refused → LinesFit req.method ip req.path port) := by
  cases reply with
  | refused => exact iff_of_true ⟨none, rfl⟩ fun h => absurd rfl h
  | answered rsp =>
    have hnone := requestText_eq_none_iff ip port req hbody
    rw [httpExchange]
    cases htext : requestText ip port req with
    | none =>
      have hfits := hnone.mp htext
      simp [throw, throwThe, MonadExceptOf.throw, hfits]
    | some text =>
      have hfits : LinesFit req.method ip req.path port := by
        by_contra hfits
        rw [hnone.mpr hfits] at htext
        cases htext
      simp [pure, Except.pure, hfits]

/-- The name of a service is at most 23 characters. -/
theorem length_serviceName_le (stype : Fin 3) : (serviceName stype).length ≤ 23 := by
  have happ : (ascii "TmApplicationServer:1").length = 21 := rfl
  have hclp : (ascii "TmClientProfile:1").length = 17 := rfl
  have hnot : (ascii "TmNotificationServer:1").length = 22 := rfl
  unfold serviceName
  split_ifs <;> omega

/-- The header of an action fits its array of 300 bytes. -/
theorem length_soapAction_lt (stype : Fin 3) {action : List UInt8} (h : action.length ≤ 20) :
    (soapAction stype action).length < 300 := by
  have hservice := length_serviceName_le stype
  refine (length_of_eq_formatted 46 [.fixed "SOAPACTION: \"urn:schemas-upnp-org:service:",
    .slot (serviceName stype), .fixed "#", .slot action, .fixed "\"\r\n"]
    (by simp [soapAction, formatted, FormatPart.bytes]) rfl).trans_lt ?_
  simp only [slotLength]
  omega

/-- So does the beginning of the envelope. -/
theorem length_envelopeBegin_lt (stype : Fin 3) {action : List UInt8} (h : action.length ≤ 20) :
    (envelopeBegin stype action).length < 300 := by
  have hservice := length_serviceName_le stype
  refine (length_of_eq_formatted 197 [.fixed "<?xml version=\"1.0\"?>",
    .fixed "<s:Envelope xmlns:s=\"http://schemas.xmlsoap.org/soap/envelope/\" ",
    .fixed "s:encodingStyle=\"http://schemas.xmlsoap.org/soap/encoding/\">", .fixed "<s:Body>",
    .fixed "<u:", .slot action, .fixed " xmlns:u=\"urn:schemas-upnp-org:service:",
    .slot (serviceName stype), .fixed "\">"]
    (by simp [envelopeBegin, formatted, FormatPart.bytes]) rfl).trans_lt ?_
  simp only [slotLength]
  omega

/-- And its end. -/
theorem length_envelopeEnd_lt {action : List UInt8} (h : action.length ≤ 20) :
    (envelopeEnd action).length < 300 := by
  refine (length_of_eq_formatted 27 [.fixed "</u:", .slot action, .fixed ">", .fixed "</s:Body>",
    .fixed "</s:Envelope>"] (by simp [envelopeEnd, formatted, FormatPart.bytes]) rfl).trans_lt ?_
  simp only [slotLength]
  omega

/-- **The request of an action**: its header and its envelope fit, whatever the arguments. -/
theorem actionRequest_eq (server : RemoteServer) (stype : Fin 3) {action path : List UInt8}
    (args : List UInt8) (haction : action.length ≤ 20)
    (hpath : (server.sinfo stype).curl = some path) :
    ∃ rq, actionRequest server stype action args = .ok rq ∧ rq.method = ascii "POST" ∧
      rq.path = path ∧
      rq.body = some (envelopeBegin stype action ++ args ++ envelopeEnd action) := by
  have hheader : sprintfInto 300 (soapAction stype action) = .ok (soapAction stype action) :=
    if_pos (length_soapAction_lt stype haction)
  have hbegin : sprintfInto 300 (envelopeBegin stype action) = .ok (envelopeBegin stype action) :=
    if_pos (length_envelopeBegin_lt stype haction)
  have hend : sprintfInto 300 (envelopeEnd action) = .ok (envelopeEnd action) :=
    if_pos (length_envelopeEnd_lt haction)
  unfold actionRequest
  rw [hpath, hheader, hbegin, hend]
  refine ⟨_, rfl, rfl, rfl, ?_⟩
  have hne : (envelopeBegin stype action ++ args ++ envelopeEnd action).length ≠ 0 := by
    simp [envelopeEnd, ascii]
  show strAppend none _ = _
  rw [getD_strAppend, getD_strAppend, getD_strAppend]
  exact if_neg hne

/-- With arguments of any ordinary length the body is far from the bound of a request. -/
theorem actionRequest_short (server : RemoteServer) (stype : Fin 3) {action path : List UInt8}
    {args : List UInt8} (haction : action.length ≤ 20) (hargs : args.length < 10000)
    (hpath : (server.sinfo stype).curl = some path) :
    ∃ rq, actionRequest server stype action args = .ok rq ∧ rq.method = ascii "POST" ∧
      rq.path = path ∧ ∀ body, rq.body = some body → body.length < 100000 := by
  obtain ⟨rq, hrq, hmethod, hrqPath, hbody⟩ := actionRequest_eq server stype args haction hpath
  refine ⟨rq, hrq, hmethod, hrqPath, ?_⟩
  intro body h
  have hbegin := length_envelopeBegin_lt stype haction
  have hend := length_envelopeEnd_lt haction
  rw [hbody] at h
  cases h
  rw [List.length_append, List.length_append]
  omega

/-- The request of an action has a path and an address, and its lines fit if they are written. -/
def Sendable (server : RemoteServer) (stype : Fin 3) (reply : Reply) : Prop :=
  ∃ path ip, (server.sinfo stype).curl = some path ∧ server.ip = some ip ∧
    (reply ≠ .refused → LinesFit (ascii "POST") ip path server.port)

/-- An action comes back with something exactly if it can be sent. -/
theorem exists_brings_iff (haction : action.length ≤ 20) (hargs : args.length < 10000) :
    (∃ rp, Brings server stype action args reply rp) ↔ Sendable server stype reply := by
  cases hpath : (server.sinfo stype).curl with
  | none =>
    constructor
    · rintro ⟨rp, rq, ip, hrq, -⟩
      rw [actionRequest, hpath] at hrq
      cases hrq
    · rintro ⟨path, ip, hpath', -⟩
      rw [hpath] at hpath'
      cases hpath'
  | some path =>
    obtain ⟨rq, hrq, hmethod, hrqPath, hshort⟩ :=
      actionRequest_short server stype haction hargs hpath
    constructor
    · rintro ⟨rp, rq', ip, hrq', hip, hrp⟩
      rw [hrq] at hrq'
      cases hrq'
      refine ⟨path, ip, hpath, hip, ?_⟩
      have hfits := (httpExchange_returns_iff ip server.port rq reply hshort).mp ⟨rp, hrp⟩
      rwa [hmethod, hrqPath] at hfits
    · rintro ⟨path', ip, hpath', hip, hfits⟩
      rw [hpath] at hpath'
      cases hpath'
      rw [← hmethod, ← hrqPath] at hfits
      obtain ⟨rp, hrp⟩ := (httpExchange_returns_iff ip server.port rq reply hshort).mpr hfits
      exact ⟨rp, rq, ip, hrq, hip, hrp⟩

/-- **When an action returns**: its request can be sent, and its handler returns on the document
it is answered with. -/
theorem exists_invokeAction_iff (haction : action.length ≤ 20) (hargs : args.length < 10000) :
    (∃ r, invokeAction server stype action args handler s reply = .ok r) ↔
      Sendable server stype reply ∧ ∀ rsp, reply = .answered (some rsp) → rsp.val.errcode = 200 →
        ∃ result, handler rsp.val.body = .ok result := by
  constructor
  · rintro ⟨r, h⟩
    obtain ⟨rp, hbrings, hact⟩ := invokeAction_eq_ok.mp h
    refine ⟨(exists_brings_iff haction hargs).mp ⟨rp, hbrings⟩, ?_⟩
    rintro rsp rfl hcode
    rw [hbrings.eq_some, actOn, if_pos hcode] at hact
    obtain ⟨result, hhandler, -⟩ := bind_eq_ok.mp hact
    exact ⟨result, hhandler⟩
  · rintro ⟨hsend, hhandler⟩
    obtain ⟨rp, hbrings⟩ := (exists_brings_iff haction hargs).mpr hsend
    have hact : ∃ r, actOn handler s rp = .ok r := by
      rcases hbrings.reply_eq with ⟨rfl, -⟩ | ⟨rsp, rfl, hreply⟩
      · exact ⟨(0, s), rfl⟩
      · rw [actOn]
        by_cases hcode : rsp.val.errcode = 200
        · obtain ⟨result, hresult⟩ := hhandler rsp hreply hcode
          rw [if_pos hcode, hresult]
          exact ⟨_, rfl⟩
        · rw [if_neg hcode]
          exact ⟨_, rfl⟩
    obtain ⟨r, hact⟩ := hact
    exact ⟨r, invokeAction_eq_ok.mpr ⟨rp, hbrings, hact⟩⟩

/-- **What an action can store too much of**: the lines of its request, and whatever its
handler stores. -/
theorem invokeAction_eq_overflow (haction : action.length ≤ 20) (hargs : args.length < 10000) :
    invokeAction server stype action args handler s reply = .error .overflow ↔
      (∃ path ip, (server.sinfo stype).curl = some path ∧ server.ip = some ip ∧
        reply ≠ .refused ∧ ¬ LinesFit (ascii "POST") ip path server.port) ∨
      (Sendable server stype reply ∧ ∃ rsp, reply = .answered (some rsp) ∧
        rsp.val.errcode = 200 ∧ handler rsp.val.body = .error .overflow) := by
  cases hpath : (server.sinfo stype).curl with
  | none =>
    have hnull : invokeAction server stype action args handler s reply = .error .nullPointer := by
      rw [invokeAction, actionRequest, hpath]
      rfl
    rw [hnull]
    simp [Sendable, hpath]
  | some path =>
    obtain ⟨rq, hrq, hmethod, hrqPath, hshort⟩ :=
      actionRequest_short server stype haction hargs hpath
    cases hip : server.ip with
    | none =>
      have hnull : invokeAction server stype action args handler s reply = .error .nullPointer := by
        rw [invokeAction, hrq, hip]
        rfl
      rw [hnull]
      simp [Sendable, hip]
    | some ip =>
      have heq : invokeAction server stype action args handler s reply =
          httpExchange ip server.port rq reply >>= actOn handler s := by
        rw [invokeAction, hrq, hip]
        rfl
      have hoverflow := httpExchange_eq_overflow ip server.port rq reply hshort
      rw [hmethod, hrqPath] at hoverflow
      rw [heq, bind_eq_error, hoverflow]
      refine or_congr (by simp) ?_
      constructor
      · rintro ⟨rp, hrp, hact⟩
        have hbrings : Brings server stype action args reply rp := ⟨rq, ip, hrq, hip, hrp⟩
        obtain ⟨rsp, rfl, hcode, hhandler⟩ := actOn_eq_error.mp hact
        refine ⟨(exists_brings_iff haction hargs).mp ⟨_, hbrings⟩, ?_⟩
        rcases hbrings.reply_eq with ⟨hnone, -⟩ | ⟨rsp', hsome, hreply⟩
        · cases hnone
        · cases hsome
          exact ⟨rsp', hreply, hcode, hhandler⟩
      · rintro ⟨hsend, rsp, rfl, hcode, hhandler⟩
        obtain ⟨rp, hbrings⟩ := (exists_brings_iff haction hargs).mpr hsend
        have hrp := hbrings.eq_some
        obtain ⟨rq', ip', hrq', hip', hexchange⟩ := hbrings
        rw [hrq] at hrq'
        cases hrq'
        rw [hip] at hip'
        cases hip'
        exact ⟨rp, hexchange, actOn_eq_error.mpr ⟨rsp.val, hrp, hcode, hhandler⟩⟩

/-- The arguments of a listing have sixty characters besides the filter and the number. -/
theorem length_listArgs (filter : List UInt8) (pid : UInt32) :
    (listArgs filter pid).length = filter.length + (decimalInt pid).length + 60 := by
  refine (length_of_eq_formatted 60 [.fixed "<AppListingFilter>", .slot filter,
    .fixed "</AppListingFilter><ProfileID>", .slot (decimalInt pid), .fixed "</ProfileID>"]
    (by simp [listArgs, formatted, FormatPart.bytes]) rfl).trans ?_
  simp only [slotLength]
  omega

/-- With arguments that fit, fetching a listing is an action. -/
theorem getApplicationList_eq (parse : Option (List UInt8) → Option Element) (apps : AppHeap)
    {pid : UInt32} {filter : List UInt8} (hargs : (listArgs filter pid).length < 100) :
    remoteServerGetApplicationList parse server apps pid filter reply =
      invokeAction server serviceTypeApp (ascii "GetApplicationList") (listArgs filter pid)
        (getApplicationListParse parse (server, apps)) (server, apps) reply := by
  rw [remoteServerGetApplicationList, sprintfInto, if_pos hargs]
  rfl

/-! ## What can go wrong -/

variable {P : Fault → Prop}

/-- Following a pointer goes wrong at null only. -/
theorem failsOnly_deref (hnull : P .nullPointer) {α : Type} (o : Option α) :
    FailsOnly P (deref o) := by
  cases o with
  | none => exact failsOnly_error hnull
  | some a => exact failsOnly_ok P a

/-- Formatting goes wrong at the end of the array only. -/
theorem failsOnly_sprintfInto (hoverflow : P .overflow) (size : ℕ) (line : List UInt8) :
    FailsOnly P (sprintfInto size line) := by
  unfold sprintfInto
  split
  · exact failsOnly_ok P line
  · exact failsOnly_error hoverflow

/-- An exchange goes wrong where it formats a line. -/
theorem failsOnly_httpExchange (hoverflow : P .overflow) (ip : List UInt8) (port : UInt16)
    (req : HttpReq) (reply : Reply) : FailsOnly P (httpExchange ip port req reply) := by
  cases reply with
  | refused => exact failsOnly_ok P none
  | answered rsp =>
    rw [httpExchange]
    split
    · exact failsOnly_error hoverflow
    · exact failsOnly_ok P _

/-- Preparing an action follows pointers and formats texts. -/
theorem failsOnly_actionRequest (hnull : P .nullPointer) (hoverflow : P .overflow)
    (server : RemoteServer) (stype : Fin 3) (action args : List UInt8) :
    FailsOnly P (actionRequest server stype action args) := by
  refine (failsOnly_deref hnull _).bind fun path _ => ?_
  refine (failsOnly_sprintfInto hoverflow _ _).bind fun header _ => ?_
  refine (failsOnly_sprintfInto hoverflow _ _).bind fun opening _ => ?_
  refine (failsOnly_sprintfInto hoverflow _ _).bind fun closing _ => ?_
  exact failsOnly_ok P _

/-- An action goes wrong in its request or in its handler. -/
theorem failsOnly_invokeAction (hnull : P .nullPointer) (hoverflow : P .overflow)
    (hhandler : ∀ content, FailsOnly P (handler content)) :
    FailsOnly P (invokeAction server stype action args handler s reply) := by
  refine (failsOnly_actionRequest hnull hoverflow _ _ _ _).bind fun rq _ => ?_
  refine (failsOnly_deref hnull _).bind fun ip _ => ?_
  refine (failsOnly_httpExchange hoverflow _ _ _ _).bind fun rp _ => ?_
  cases rp with
  | none => exact failsOnly_ok P _
  | some rsp =>
    rw [actOn]
    split
    · exact (hhandler rsp.body).bind fun result _ => failsOnly_ok P _
    · exact failsOnly_ok P _

/-- A descent goes wrong at a child that is not there. -/
theorem failsOnly_descend (hnull : P .nullPointer) (names : List (List UInt8))
    (root : Option Element) : FailsOnly P (descend names root) := by
  induction names generalizing root with
  | nil => exact failsOnly_ok P root
  | cons name names ih =>
    refine (failsOnly_deref hnull root).bind fun e _ => ?_
    by_cases hname : e.name = name
    · rw [if_pos hname]
      cases names with
      | nil => exact failsOnly_ok P _
      | cons next names => exact ih e.children.head?
    · rw [if_neg hname]
      exact failsOnly_ok P _

/-- The handler of a listing goes wrong in its descent. -/
theorem failsOnly_getApplicationListParse (hnull : P .nullPointer)
    (parse : Option (List UInt8) → Option Element) (s : RemoteServer × AppHeap)
    (content : Option (List UInt8)) :
    FailsOnly P (getApplicationListParse parse s content) := by
  refine (failsOnly_descend hnull _ _).bind fun found _ => ?_
  cases found <;> exact failsOnly_ok P _

/-- The handler of a launch follows pointers and stores a host. -/
theorem failsOnly_launchApplicationParse (hnull : P .nullPointer) (hoverflow : P .overflow)
    (parse : Option (List UInt8) → Option Element) (server : RemoteServer)
    (content : Option (List UInt8)) :
    FailsOnly P (launchApplicationParse parse server content) := by
  refine (failsOnly_descend hnull _ _).bind fun found _ => ?_
  cases found with
  | none => exact failsOnly_ok P _
  | some appUri =>
    have hstore : FailsOnly P (storeVncIp server (scanVncUri appUri.content).1) := by
      cases (scanVncUri appUri.content).1 with
      | none => exact failsOnly_ok P _
      | some ip => exact (failsOnly_sprintfInto hoverflow 32 ip).bind fun _ _ => failsOnly_ok P _
    refine hstore.bind fun server' _ => ?_
    cases (scanVncUri appUri.content).2 <;> exact failsOnly_ok P _

/-- Appending an address needs a server and one of three services. -/
theorem failsOnly_appendUrl (hnull : P .nullPointer) (houtside : P .outsideArray)
    (server : Option RemoteServer) (type : ℕ) (url : Url) (content : List UInt8) :
    FailsOnly P (appendUrl server type url content) := by
  refine (failsOnly_deref hnull _).bind fun server' _ => ?_
  split_ifs
  · exact failsOnly_ok P _
  · exact failsOnly_ok P _
  · exact failsOnly_error houtside

/-- So does every child of a service. -/
theorem failsOnly_serviceChild (hnull : P .nullPointer) (houtside : P .outsideArray)
    (s : Option RemoteServer × ℕ) (c4 : Element) : FailsOnly P (serviceChild s c4) := by
  unfold serviceChild
  split_ifs
  · exact failsOnly_ok P _
  · exact (failsOnly_appendUrl hnull houtside _ _ _ _).bind fun _ _ => failsOnly_ok P _
  · exact (failsOnly_appendUrl hnull houtside _ _ _ _).bind fun _ _ => failsOnly_ok P _
  · exact (failsOnly_appendUrl hnull houtside _ _ _ _).bind fun _ _ => failsOnly_ok P _
  · exact failsOnly_ok P _

/-- So does every child of the description. -/
theorem failsOnly_rootChild (hnull : P .nullPointer) (houtside : P .outsideArray)
    (ip : List UInt8) (port : UInt16) (server : Option RemoteServer) (c1 : Element) :
    FailsOnly P (rootChild ip port server c1) := by
  have hlist : ∀ server c3, FailsOnly P (serviceListChild server c3) := by
    intro server c3
    unfold serviceListChild
    split
    · refine (FailsOnly.foldlM (failsOnly_serviceChild hnull houtside) _ _).bind ?_
      intro t _
      exact failsOnly_ok P _
    · exact failsOnly_ok P _
  have hdevice : ∀ server c2, FailsOnly P (deviceChild ip port server c2) := by
    intro server c2
    unfold deviceChild
    split_ifs
    · exact failsOnly_ok P _
    · exact (failsOnly_deref hnull _).bind fun _ _ => failsOnly_ok P _
    · exact FailsOnly.foldlM hlist _ _
    · exact failsOnly_ok P _
  unfold rootChild
  split
  · exact FailsOnly.foldlM hdevice _ _
  · exact failsOnly_ok P _

/-- And so does the whole description. -/
theorem failsOnly_describe (hnull : P .nullPointer) (houtside : P .outsideArray)
    (parse : Option (List UInt8) → Option Element) (ip : List UInt8) (port : UInt16)
    (rp : Option HttpRsp) : FailsOnly P (describe parse ip port rp) := by
  cases rp with
  | none => exact failsOnly_ok P _
  | some rsp =>
    rw [describe]
    split
    · exact FailsOnly.foldlM (failsOnly_rootChild hnull houtside ip port) _ _
    · exact failsOnly_ok P _

end MirrorLink.Analysis
