import MirrorLink.Analysis.Actions

/-!
# Launching an application

`onLaunch` takes 0 for success, and 0 is also what comes back when there is no reply or the
reply is of another shape.  Only an address the handler cannot read gives something else.
`launch_iff` says when the session is started for the right reason.
-/

set_option autoImplicit false

namespace MirrorLink.Analysis

open MirrorLink.Library MirrorLink.Program

/-! ## Addresses of sessions -/

/-- The text has the form `VNC://ip:port`. -/
def IsVncUri (uri ip : List UInt8) (port : UInt16) : Prop :=
  ∃ digits, uri = ascii "VNC://" ++ (ip ++ 58 :: digits) ∧ ip ≠ [] ∧ 58 ∉ ip ∧ digits ≠ [] ∧
    (∀ b ∈ digits, isDigit b = true) ∧ digitsValue digits = port.toNat

/-- An address of VNC is taken apart. -/
theorem scanVncUri_of_isVncUri {uri ip : List UInt8} {port : UInt16} (h : IsVncUri uri ip port) :
    scanVncUri uri = (some ip, some port) := by
  obtain ⟨digits, rfl, hne, hcolon, hdigits, hall, hvalue⟩ := h
  have hlength : (ascii "VNC://").length = 6 := rfl
  have hdrop : (ascii "VNC://" ++ (ip ++ 58 :: digits)).drop 6 = ip ++ 58 :: digits :=
    List.drop_left' hlength
  have hip : (ip ++ 58 :: digits).takeWhile (· ≠ 58) = ip := by
    have hkeep : ∀ b ∈ ip, decide (b ≠ 58) = true := by
      intro b hb
      exact decide_eq_true fun h58 => hcolon (h58 ▸ hb)
    rw [List.takeWhile_append_of_pos hkeep]
    simp
  have hrest : (ascii "VNC://" ++ (ip ++ 58 :: digits)).drop (6 + ip.length) = 58 :: digits := by
    rw [← List.drop_drop, hdrop, List.drop_left]
  unfold scanVncUri
  rw [if_pos (List.prefix_append _ _)]
  simp only [hdrop, hip, if_neg hne, hrest, scanShort_digits hdigits hall hvalue]

/-- In one way only. -/
theorem isVncUri_unique {uri ip ip' : List UInt8} {port port' : UInt16}
    (h : IsVncUri uri ip port) (h' : IsVncUri uri ip' port') : ip = ip' ∧ port = port' := by
  have heq := (scanVncUri_of_isVncUri h).symm.trans (scanVncUri_of_isVncUri h')
  cases heq
  exact ⟨rfl, rfl⟩

/-- The host is what stands before the first colon, if there is anything. -/
theorem scanVncUri_fst_iff {uri ip : List UInt8} :
    (scanVncUri uri).1 = some ip ↔
      ascii "VNC://" <+: uri ∧ ip ≠ [] ∧ (uri.drop 6).takeWhile (· ≠ 58) = ip := by
  unfold scanVncUri
  by_cases hscheme : ascii "VNC://" <+: uri
  · rw [if_pos hscheme]
    by_cases hempty : (uri.drop 6).takeWhile (· ≠ 58) = []
    · simp only [if_pos hempty]
      constructor
      · intro h
        cases h
      · rintro ⟨-, hne, hip⟩
        exact absurd (hip.symm.trans hempty) hne
    · simp only [if_neg hempty]
      have hstored : ((uri.drop 6).takeWhile (· ≠ 58) = ip) ↔
          ascii "VNC://" <+: uri ∧ ip ≠ [] ∧ (uri.drop 6).takeWhile (· ≠ 58) = ip := by
        constructor
        · intro hip
          exact ⟨hscheme, fun h => hempty (hip.trans h), hip⟩
        · intro h
          exact h.2.2
      split
      · exact Option.some_inj.trans hstored
      · exact Option.some_inj.trans hstored
  · rw [if_neg hscheme]
    constructor
    · intro h
      cases h
    · intro h
      exact absurd h.1 hscheme

/-- Without a host no port is read. -/
theorem scanVncUri_snd_none {uri : List UInt8} (h : (scanVncUri uri).1 = none) :
    (scanVncUri uri).2 = none := by
  unfold scanVncUri at h ⊢
  by_cases hscheme : ascii "VNC://" <+: uri
  · rw [if_pos hscheme] at h ⊢
    by_cases hempty : (uri.drop 6).takeWhile (· ≠ 58) = []
    · simp only [if_pos hempty]
    · simp only [if_neg hempty] at h
      split at h <;> cases h
  · rw [if_neg hscheme]

/-! ## Answers -/

def appUriPath : List (List UInt8) :=
  [ascii "Envelope", ascii "Body", ascii "LaunchApplicationResponse", ascii "AppURI"]

/-- The request was answered with status 200 and the address of a session. -/
def AnswersWith (parse : Option (List UInt8) → Option Element) (reply : Reply) (ip : List UInt8)
    (port : UInt16) : Prop :=
  ∃ rsp e, reply = .answered (some rsp) ∧ rsp.val.errcode = 200 ∧
    elementAt appUriPath (parse rsp.val.body) = some e ∧ IsVncUri e.content ip port

/-- `onLaunch` returns, and has started a session exactly if this request was answered with
its address. -/
def LaunchesAnswered (parse : Option (List UInt8) → Option Element) (c : MirrorLinkClient)
    (appid : UInt32) (reply : Reply) : Prop :=
  ∃ c' started, onLaunch parse c appid reply = .ok (c', started) ∧
    ∀ ip port, started = some (ip, port) ↔ c.server ≠ none ∧ AnswersWith parse reply ip port

/-- The address can be dealt with: it has the form and fits into `vnc_ip`, or the code cannot
read it, and what it stores of it fits. -/
def GoodUri (uri : List UInt8) : Prop :=
  (∃ ip port, IsVncUri uri ip port ∧ ip.length < 32) ∨
    (scanVncUri uri).2 = none ∧ ∀ ip, (scanVncUri uri).1 = some ip → ip.length < 32

/-- The reply is a response with another status than 200, or has an address that can be dealt
with. -/
def GoodReply (parse : Option (List UInt8) → Option Element) (reply : Reply) : Prop :=
  ∃ rsp, reply = .answered (some rsp) ∧
    (rsp.val.errcode = 200 →
      ∃ e, elementAt appUriPath (parse rsp.val.body) = some e ∧ GoodUri e.content)

/-! ## The handler -/

/-- A host that fits is stored. -/
theorem storeVncIp_eq (server : RemoteServer) (ip : List UInt8) (h : ip.length < 32) :
    storeVncIp server (some ip) = .ok { server with vncIp := ip } := by
  rw [storeVncIp, sprintfInto, if_pos h]
  rfl

variable {parse : Option (List UInt8) → Option Element} {server server' : RemoteServer}
  {content : Option (List UInt8)} {code : UInt8}

/-- What the handler does with the text at the end of its path. -/
theorem launchApplicationParse_eq (server : RemoteServer) {uri : Element}
    (hat : elementAt appUriPath (parse content) = some uri) :
    launchApplicationParse parse server content =
      storeVncIp server (scanVncUri uri.content).1 >>= fun server =>
        (scanVncUri uri.content).2.elim (.ok (1, server))
          fun port => .ok (0, { server with vncPort := port }) := by
  have hdescend : descend appUriPath (parse content) = .ok (some uri) :=
    (descend_eq_some_iff _ _ _ _).mpr hat
  show (descend appUriPath (parse content) >>= _) = _
  rw [hdescend]
  show (storeVncIp server (scanVncUri uri.content).1 >>= _) = _
  cases storeVncIp server (scanVncUri uri.content).1 with
  | error fault => rfl
  | ok server => cases (scanVncUri uri.content).2 <;> rfl

/-- **The handler** returns on a path with its address, or on a document of another shape. -/
theorem launchApplicationParse_ok
    (h : launchApplicationParse parse server content = .ok (code, server')) :
    (elementAt appUriPath (parse content) = none ∧ code = 0) ∨
      ∃ e, elementAt appUriPath (parse content) = some e ∧
        (∀ ip, (scanVncUri e.content).1 = some ip → ip.length < 32) ∧
        (((scanVncUri e.content).2 = none ∧ code = 1) ∨
          ((scanVncUri e.content).2 = some server'.vncPort ∧ code = 0 ∧
            ∀ ip, (scanVncUri e.content).1 = some ip → server'.vncIp = ip)) := by
  obtain ⟨found, hfound, h⟩ := bind_eq_ok.mp h
  cases found with
  | none =>
    cases h
    exact .inl ⟨elementAt_of_descend_none hfound, rfl⟩
  | some e =>
    have hat : elementAt appUriPath (parse content) = some e :=
      (descend_eq_some_iff _ _ _ e).mp hfound
    obtain ⟨stored, hstore, h⟩ := bind_eq_ok.mp h
    have hfits : ∀ ip, (scanVncUri e.content).1 = some ip → ip.length < 32 ∧ stored.vncIp = ip := by
      intro ip hip
      rw [hip] at hstore
      obtain ⟨vncIp, hsprintf, hstore⟩ := bind_eq_ok.mp hstore
      unfold sprintfInto at hsprintf
      split_ifs at hsprintf with hlt
      cases hsprintf
      cases hstore
      exact ⟨hlt, rfl⟩
    refine .inr ⟨e, hat, fun ip hip => (hfits ip hip).1, ?_⟩
    cases hport : (scanVncUri e.content).2 with
    | none =>
      rw [hport] at h
      cases h
      exact .inl ⟨rfl, rfl⟩
    | some port =>
      rw [hport] at h
      cases h
      exact .inr ⟨rfl, rfl, fun ip hip => (hfits ip hip).2⟩

/-- The handler on an address that can be dealt with. -/
theorem launchApplicationParse_good (server : RemoteServer) {e : Element}
    (hat : elementAt appUriPath (parse content) = some e)
    (hfits : ∀ ip, (scanVncUri e.content).1 = some ip → ip.length < 32) :
    ∃ r, launchApplicationParse parse server content = .ok r := by
  rw [launchApplicationParse_eq server hat]
  obtain ⟨stored, hstored⟩ : ∃ stored, storeVncIp server (scanVncUri e.content).1 = .ok stored := by
    cases hip : (scanVncUri e.content).1 with
    | none => exact ⟨server, rfl⟩
    | some ip => exact ⟨_, storeVncIp_eq server ip (hfits ip hip)⟩
  rw [hstored]
  cases (scanVncUri e.content).2 with
  | none => exact ⟨(1, stored), rfl⟩
  | some port => exact ⟨(0, { stored with vncPort := port }), rfl⟩

/-! ## The slot -/

/-- The arguments of a launch fit their array. -/
theorem length_launchArgs (appid pid : UInt32) : (launchArgs appid pid).length < 100 := by
  have hint := length_decimalInt_le pid
  have hhex := length_hex08 appid
  refine (length_of_eq_formatted 40 [.fixed "<AppID>0x", .slot (hex08 appid),
    .fixed "</AppID><ProfileID>", .slot (decimalInt pid), .fixed "</ProfileID>"]
    (by simp [launchArgs, formatted, FormatPart.bytes]) rfl).trans_lt ?_
  simp only [slotLength]
  omega

/-- What `onLaunch` does when the call returns. -/
theorem onLaunch_eq_ok {c c' : MirrorLinkClient} {appid : UInt32} {reply : Reply}
    {started : Option (List UInt8 × UInt16)} (hserver : c.server = some server) :
    onLaunch parse c appid reply = .ok (c', started) ↔
      ∃ rp ret server',
        Brings server serviceTypeApp (ascii "LaunchApplication") (launchArgs appid 0) reply rp ∧
        actOn (launchApplicationParse parse server) server rp = .ok (ret, server') ∧
          c' = { c with server := some server' } ∧
            started = if ret = 0 then some (server'.vncIp, server'.vncPort) else none := by
  have hargs : sprintfInto 100 (launchArgs appid 0) = .ok (launchArgs appid 0) :=
    if_pos (length_launchArgs appid 0)
  rw [onLaunch, hserver]
  simp only [remoteServerLaunchApplication, hargs, bind_eq_ok, invokeAction_eq_ok]
  constructor
  · rintro ⟨⟨ret, server'⟩, ⟨args, hargs', rp, hbrings, hact⟩, h⟩
    cases hargs'
    cases h
    exact ⟨rp, ret, server', hbrings, hact, rfl, rfl⟩
  · rintro ⟨rp, ret, server', hbrings, hact, rfl, rfl⟩
    exact ⟨(ret, server'), ⟨_, rfl, rp, hbrings, hact⟩, rfl⟩

/-- The request can be sent, and its reply is one that can be dealt with. -/
def GoodLaunch (parse : Option (List UInt8) → Option Element) (c : MirrorLinkClient)
    (reply : Reply) : Prop :=
  ∀ server, c.server = some server → Sendable server serviceTypeApp reply ∧ GoodReply parse reply

/-- A launch comes back with something exactly if it can be sent. -/
theorem brings_launch_iff (server : RemoteServer) (appid : UInt32) (reply : Reply) :
    (∃ rp, Brings server serviceTypeApp (ascii "LaunchApplication") (launchArgs appid 0) reply rp) ↔
      Sendable server serviceTypeApp reply := by
  have hargs := length_launchArgs appid 0
  exact exists_brings_iff (show 17 ≤ 20 by omega) (by omega)

/-- What the document of a reply answers with is the address at the end of the path. -/
theorem answersWith_iff {reply : Reply} {rsp : {rsp : HttpRsp // rsp.errcode ≠ 0}} {e : Element}
    (hreply : reply = .answered (some rsp)) (hcode : rsp.val.errcode = 200)
    (hat : elementAt appUriPath (parse rsp.val.body) = some e) (ip : List UInt8) (port : UInt16) :
    AnswersWith parse reply ip port ↔ IsVncUri e.content ip port := by
  constructor
  · rintro ⟨rsp', e', hsome, -, hat', huri⟩
    rw [hreply] at hsome
    cases hsome
    rw [hat] at hat'
    cases hat'
    exact huri
  · intro huri
    exact ⟨rsp, e, hreply, hcode, hat, huri⟩

/-- An answered launch was sent, and its reply is good. -/
theorem goodReply_of_launchesAnswered {c : MirrorLinkClient} {appid : UInt32} {reply : Reply}
    (hserver : c.server = some server) (h : LaunchesAnswered parse c appid reply) :
    Sendable server serviceTypeApp reply ∧ GoodReply parse reply := by
  obtain ⟨c', started, hok, hstarted⟩ := h
  obtain ⟨rp, ret, server', hbrings, hact, -, rfl⟩ := (onLaunch_eq_ok hserver).mp hok
  refine ⟨(brings_launch_iff server appid reply).mp ⟨rp, hbrings⟩, ?_⟩
  -- whatever is started has been answered
  have hanswered : ret = 0 → AnswersWith parse reply server'.vncIp server'.vncPort := by
    intro hret
    exact ((hstarted _ _).mp (if_pos hret)).2
  rcases hbrings.reply_eq with ⟨rfl, hreply⟩ | ⟨rsp, rfl, hreply⟩
  · cases hact
    obtain ⟨rsp, e, hsome, -⟩ := hanswered rfl
    rcases hreply with hreply | hreply
    · rw [hreply] at hsome
      cases hsome
    · rw [hreply] at hsome
      cases hsome
  · refine ⟨rsp, hreply, ?_⟩
    intro hcode
    rw [actOn, if_pos hcode] at hact
    obtain ⟨⟨code, t⟩, hhandler, hact⟩ := bind_eq_ok.mp hact
    cases hact
    rcases launchApplicationParse_ok hhandler with
      ⟨hnone, rfl⟩ | ⟨e, hat, hfits, ⟨hport, rfl⟩ | ⟨hport, rfl, hip⟩⟩
    · obtain ⟨rsp', e, hsome, -, hat, -⟩ := hanswered rfl
      rw [hreply] at hsome
      cases hsome
      rw [hnone] at hat
      cases hat
    · exact ⟨e, hat, .inr ⟨hport, hfits⟩⟩
    · have huri := (answersWith_iff hreply hcode hat _ _).mp (hanswered rfl)
      refine ⟨e, hat, .inl ⟨_, _, huri, hfits _ ?_⟩⟩
      rw [scanVncUri_of_isVncUri huri]

/-- The host of a good address fits. -/
theorem GoodUri.fits {uri : List UInt8} (h : GoodUri uri) :
    ∀ ip, (scanVncUri uri).1 = some ip → ip.length < 32 := by
  rcases h with ⟨ip, port, huri, hlt⟩ | ⟨-, hfits⟩
  · intro ip' hip'
    rw [scanVncUri_of_isVncUri huri] at hip'
    cases hip'
    exact hlt
  · exact hfits

/-- With an address that can be dealt with, what is stored for success is the address. -/
theorem stored_iff {e : Element} (hat : elementAt appUriPath (parse content) = some e)
    (huri : GoodUri e.content)
    (hhandler : launchApplicationParse parse server content = .ok (code, server'))
    (ip : List UInt8) (port : UInt16) :
    (code = 0 ∧ server'.vncIp = ip ∧ server'.vncPort = port) ↔ IsVncUri e.content ip port := by
  rcases launchApplicationParse_ok hhandler with
    ⟨hnone, -⟩ | ⟨e', hat', -, ⟨hport, rfl⟩ | ⟨hport, rfl, hip⟩⟩
  · rw [hat] at hnone
    cases hnone
  · rw [hat] at hat'
    cases hat'
    constructor
    · rintro ⟨hcode, -⟩
      cases hcode
    · intro huri'
      rw [scanVncUri_of_isVncUri huri'] at hport
      cases hport
  · rw [hat] at hat'
    cases hat'
    rcases huri with ⟨ip', port', huri, -⟩ | ⟨hunread, -⟩
    · have hscan := scanVncUri_of_isVncUri huri
      rw [hscan] at hport
      have hvncIp := hip ip' (by rw [hscan])
      have hvncPort : port' = server'.vncPort := Option.some.inj hport
      constructor
      · rintro ⟨-, rfl, rfl⟩
        rw [hvncIp, ← hvncPort]
        exact huri
      · intro huri'
        obtain ⟨rfl, rfl⟩ := isVncUri_unique huri huri'
        exact ⟨rfl, hvncIp, hvncPort.symm⟩
    · rw [hunread] at hport
      cases hport

/-- And a good reply to a launch that was sent answers it. -/
theorem launchesAnswered_of_goodReply {c : MirrorLinkClient} {appid : UInt32} {reply : Reply}
    {rp : Option HttpRsp} (hserver : c.server = some server)
    (hbrings :
      Brings server serviceTypeApp (ascii "LaunchApplication") (launchArgs appid 0) reply rp)
    (hgood : GoodReply parse reply) : LaunchesAnswered parse c appid reply := by
  obtain ⟨rsp, hreply, hgood⟩ := hgood
  have hrp : rp = some rsp.val := by
    rw [hreply] at hbrings
    exact hbrings.eq_some
  subst hrp
  have hserver' : c.server ≠ none := by
    rw [hserver]
    exact Option.some_ne_none _
  by_cases hcode : rsp.val.errcode = 200
  · obtain ⟨e, hat, huri⟩ := hgood hcode
    obtain ⟨⟨code, server'⟩, hhandler⟩ := launchApplicationParse_good server hat huri.fits
    have hact : actOn (launchApplicationParse parse server) server (some rsp.val) =
        .ok (if code ≠ 0 then 200 else 0, server') := by
      rw [actOn, if_pos hcode]
      exact bind_eq_ok.mpr ⟨(code, server'), hhandler, rfl⟩
    refine ⟨_, _, (onLaunch_eq_ok hserver).mpr ⟨_, _, _, hbrings, hact, rfl, rfl⟩, ?_⟩
    intro ip port
    rw [answersWith_iff hreply hcode hat, ← stored_iff hat huri hhandler, and_iff_right hserver']
    by_cases hzero : code = 0
    · simp [hzero]
    · simp [hzero]
  · have hact : actOn (launchApplicationParse parse server) server (some rsp.val) =
        .ok (rsp.val.errcode, server) := by
      rw [actOn, if_neg hcode]
      rfl
    refine ⟨_, _, (onLaunch_eq_ok hserver).mpr ⟨_, _, _, hbrings, hact, rfl, rfl⟩, ?_⟩
    intro ip port
    rw [if_neg rsp.property]
    constructor
    · intro h
      cases h
    · rintro ⟨-, rsp', e, hsome, hcode', -⟩
      rw [hreply] at hsome
      cases hsome
      exact absurd hcode' hcode

/-- **Launching an application.**  A session is started for the right reason exactly if there
is no server to ask, or the request can be sent and its reply can be dealt with. -/
theorem launch_iff (parse : Option (List UInt8) → Option Element) (c : MirrorLinkClient)
    (appid : UInt32) (reply : Reply) :
    LaunchesAnswered parse c appid reply ↔ GoodLaunch parse c reply := by
  constructor
  · intro h server hserver
    exact goodReply_of_launchesAnswered hserver h
  · intro h
    cases hserver : c.server with
    | none =>
      refine ⟨c, none, ?_, ?_⟩
      · rw [onLaunch, hserver]
        rfl
      · intro ip port
        simp [hserver]
    | some server =>
      obtain ⟨hsend, hgood⟩ := h server hserver
      obtain ⟨rp, hbrings⟩ := (brings_launch_iff server appid reply).mpr hsend
      exact launchesAnswered_of_goodReply hserver hbrings hgood

/-- A server with the address of an earlier session. -/
def launchedServer : RemoteServer :=
  ⟨some (ascii "192.168.42.129"), none, 8080, fun _ => ⟨none, some (ascii "/c"), none⟩, none,
    ascii "192.168.42.129", 5900⟩

/-- Without a connection the session of an earlier launch is started again. -/
theorem launch_fails :
    ¬ ∀ (parse : Option (List UInt8) → Option Element) (c : MirrorLinkClient) (appid : UInt32)
      (reply : Reply), LaunchesAnswered parse c appid reply := by
  intro h
  obtain ⟨c', started, hok, hstarted⟩ :=
    h (fun _ => none) ⟨some launchedServer, AppHeap.empty⟩ 1 .refused
  obtain ⟨rp, ret, server', hbrings, hact, -, rfl⟩ := (onLaunch_eq_ok rfl).mp hok
  rcases hbrings.reply_eq with ⟨rfl, -⟩ | ⟨rsp, -, hreply⟩
  · cases hact
    obtain ⟨-, rsp, e, hsome, -⟩ := (hstarted (ascii "192.168.42.129") 5900).mp rfl
    cases hsome
  · cases hreply

end MirrorLink.Analysis
