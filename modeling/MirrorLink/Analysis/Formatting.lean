import MirrorLink.Analysis.Launch

/-!
# The arrays of the control code

The texts that are formatted come from the caller, from the description and from the reply.
What a device chooses freely, the control URL and the host of a session, can be too long; so
can the filter.  Everything else fits (`control_call_inside_iff`).
-/

set_option autoImplicit false

namespace MirrorLink.Analysis

open MirrorLink.Library MirrorLink.Program

/-! ## The calls -/

/-- A call of the control code. -/
inductive ControlCall where
  | create (ip : List UInt8) (port : UInt16) (path : List UInt8)
  | getApplicationList (server : RemoteServer) (apps : AppHeap) (pid : UInt32)
      (filter : List UInt8)
  | launchApplication (server : RemoteServer) (appid pid : UInt32)
  | setClientProfile (server : RemoteServer) (pid : UInt32)

/-- No array is too short for what the call stores in it. -/
def ControlCall.Inside (parse : Option (List UInt8) → Option Element) (reply : Reply) :
    ControlCall → Prop
  | create ip port path => remoteServerCreate parse ip port path reply ≠ .error .overflow
  | getApplicationList server apps pid filter =>
    remoteServerGetApplicationList parse server apps pid filter reply ≠ .error .overflow
  | launchApplication server appid pid =>
    remoteServerLaunchApplication parse server appid pid reply ≠ .error .overflow
  | setClientProfile server pid => remoteServerSetClientProfile server pid reply ≠ .error .overflow

/-- The lines of an action's request fit, if they are written. -/
def RequestFits (server : RemoteServer) (stype : Fin 3) (reply : Reply) : Prop :=
  ∀ path ip, (server.sinfo stype).curl = some path → server.ip = some ip → reply ≠ .refused →
    LinesFit (ascii "POST") ip path server.port

/-- What stands between `VNC://` and the first colon after it fits into `vnc_ip`. -/
def HostFits (uri : List UInt8) : Prop :=
  ascii "VNC://" <+: uri → ((uri.drop 6).takeWhile (· ≠ 58)).length < 32

/-- The address of a session that is answered with fits. -/
def AnswerFits (parse : Option (List UInt8) → Option Element) (reply : Reply) : Prop :=
  ∀ rsp e, reply = .answered (some rsp) → rsp.val.errcode = 200 →
    elementAt appUriPath (parse rsp.val.body) = some e → HostFits e.content

/-- The texts of a call are short enough. -/
def ControlCall.Fits (parse : Option (List UInt8) → Option Element) (reply : Reply) :
    ControlCall → Prop
  | create ip port path => reply ≠ .refused → LinesFit (ascii "GET") ip path port
  | getApplicationList server _ pid filter =>
    filter.length + (decimalInt pid).length < 40 ∧ RequestFits server serviceTypeApp reply
  | launchApplication server _ _ =>
    RequestFits server serviceTypeApp reply ∧
      (Sendable server serviceTypeApp reply → AnswerFits parse reply)
  | setClientProfile server _ => RequestFits server serviceTypeClp reply

/-! ## Handlers -/

/-- A host fits if what `sscanf` takes for it is below 32 bytes. -/
theorem hostFits_iff (uri : List UInt8) :
    HostFits uri ↔ ∀ ip, (scanVncUri uri).1 = some ip → ip.length < 32 := by
  constructor
  · intro h ip hip
    obtain ⟨hscheme, -, rfl⟩ := scanVncUri_fst_iff.mp hip
    exact h hscheme
  · intro h hscheme
    by_cases hempty : (uri.drop 6).takeWhile (· ≠ 58) = []
    · rw [hempty]
      exact Nat.zero_lt_of_lt (show 31 < 32 by omega)
    · exact h _ (scanVncUri_fst_iff.mpr ⟨hscheme, hempty, rfl⟩)

variable {parse : Option (List UInt8) → Option Element} {server : RemoteServer} {reply : Reply}

/-- The array of the host overflows with 32 bytes and more. -/
theorem storeVncIp_eq_overflow {ip : Option (List UInt8)} :
    storeVncIp server ip = .error .overflow ↔ ∃ text, ip = some text ∧ 32 ≤ text.length := by
  cases ip with
  | none =>
    constructor
    · intro h
      cases h
    · rintro ⟨text, h, -⟩
      cases h
  | some text =>
    rw [storeVncIp, sprintfInto]
    by_cases hlt : text.length < 32
    · rw [if_pos hlt]
      constructor
      · intro h
        cases h
      · rintro ⟨text', h, hle⟩
        cases h
        omega
    · rw [if_neg hlt]
      exact iff_of_true rfl ⟨text, rfl, by omega⟩

/-- **The handler of a launch** stores too much exactly if the host is too long. -/
theorem launchApplicationParse_eq_overflow (content : Option (List UInt8)) :
    launchApplicationParse parse server content = .error .overflow ↔
      ∃ e, elementAt appUriPath (parse content) = some e ∧ ¬ HostFits e.content := by
  have hstore : ∀ uri,
      storeVncIp server (scanVncUri uri).1 = .error .overflow ↔ ¬ HostFits uri := by
    intro uri
    rw [storeVncIp_eq_overflow, hostFits_iff]
    simp only [not_forall, not_lt, exists_prop]
  have hdescend : descend appUriPath (parse content) ≠ .error .overflow := by
    intro h
    exact failsOnly_descend (P := fun fault => fault ≠ .overflow) (by decide) _ _ _ h rfl
  refine bind_eq_error.trans ?_
  constructor
  · rintro (h | ⟨found, hfound, h⟩)
    · exact absurd h hdescend
    · cases found with
      | none => cases h
      | some e =>
        refine ⟨e, (descend_eq_some_iff _ _ _ e).mp hfound, ?_⟩
        rcases bind_eq_error.mp h with h | ⟨stored, -, h⟩
        · exact (hstore _).mp h
        · cases hport : (scanVncUri e.content).2 with
          | none =>
            rw [hport] at h
            cases h
          | some port =>
            rw [hport] at h
            cases h
  · rintro ⟨e, hat, huri⟩
    refine .inr ⟨some e, (descend_eq_some_iff _ _ _ e).mpr hat, ?_⟩
    exact bind_eq_error.mpr (.inl ((hstore _).mpr huri))

/-! ## Calls -/

/-- An action stays inside its arrays exactly if its lines fit, and its handler does. -/
theorem not_invokeAction_overflow_iff {σ : Type} {stype : Fin 3} {action args : List UInt8}
    {handler : Option (List UInt8) → Except Fault (UInt8 × σ)} {s : σ}
    (haction : action.length ≤ 20) (hargs : args.length < 10000) :
    invokeAction server stype action args handler s reply ≠ .error .overflow ↔
      RequestFits server stype reply ∧ (Sendable server stype reply → ∀ rsp,
        reply = .answered (some rsp) → rsp.val.errcode = 200 →
          handler rsp.val.body ≠ .error .overflow) := by
  rw [Ne, invokeAction_eq_overflow haction hargs, not_or]
  refine and_congr ?_ ?_
  · unfold RequestFits
    simp only [not_exists, not_and, not_not]
  · simp only [not_exists, not_and, ne_eq]

/-- The number of a profile fits its array. -/
theorem length_profileId (pid : UInt32) : (profileId pid).length < 50 := by
  have hint := length_decimalInt_le pid
  refine (length_of_eq_formatted 23 [.fixed "<ProfileID>", .slot (decimalInt pid),
    .fixed "</ProfileID>"] (by simp [profileId, formatted, FormatPart.bytes]) rfl).trans_lt ?_
  simp only [slotLength]
  omega

/-- The profile is below 2000 bytes. -/
theorem length_clientProfile : clientProfile.length < 2000 := by
  simp only [clientProfile, List.flatMap_cons, List.flatMap_nil]
  unfold ascii
  repeat rewrite [String.toList_ofList]
  decide +kernel

/-- Creating a server stays inside exactly if the two lines fit. -/
theorem create_inside_iff (ip : List UInt8) (port : UInt16) (path : List UInt8) :
    remoteServerCreate parse ip port path reply ≠ .error .overflow ↔
      (reply ≠ .refused → LinesFit (ascii "GET") ip path port) := by
  have hdescribe : ∀ rp, describe parse ip port rp ≠ .error .overflow := by
    intro rp h
    exact failsOnly_describe (P := fun fault => fault ≠ .overflow) (by decide) (by decide) parse ip
      port rp _ h rfl
  rw [Ne, remoteServerCreate, bind_eq_error, httpExchange_eq_overflow _ _ _ _ (by
    intro body h
    cases h)]
  constructor
  · intro h hreply
    by_contra hfits
    exact h (.inl ⟨hreply, hfits⟩)
  · rintro h (⟨hreply, hfits⟩ | ⟨rp, -, hrp⟩)
    · exact hfits (h hreply)
    · exact hdescribe rp hrp

/-- A listing stays inside exactly if its arguments and its lines fit. -/
theorem list_inside_iff (apps : AppHeap) (pid : UInt32) (filter : List UInt8) :
    remoteServerGetApplicationList parse server apps pid filter reply ≠ .error .overflow ↔
      filter.length + (decimalInt pid).length < 40 ∧ RequestFits server serviceTypeApp reply := by
  have hlength := length_listArgs filter pid
  by_cases hargs : (listArgs filter pid).length < 100
  · have hhandler : ∀ content,
        getApplicationListParse parse (server, apps) content ≠ .error .overflow := by
      intro content h
      exact failsOnly_getApplicationListParse (P := fun fault => fault ≠ .overflow) (by decide)
        parse _ content _ h rfl
    have haction : (ascii "GetApplicationList").length ≤ 20 := show 18 ≤ 20 by omega
    have hshort : (listArgs filter pid).length < 10000 := by omega
    rw [getApplicationList_eq parse apps hargs, not_invokeAction_overflow_iff haction hshort]
    constructor
    · intro h
      exact ⟨by omega, h.1⟩
    · intro h
      exact ⟨h.2, fun _ rsp _ _ => hhandler rsp.val.body⟩
  · have heq : remoteServerGetApplicationList parse server apps pid filter reply =
        .error .overflow := by
      rw [remoteServerGetApplicationList, sprintfInto, if_neg hargs]
      rfl
    constructor
    · intro h
      exact absurd heq h
    · intro h
      omega

/-- A launch stays inside exactly if its lines fit, and the host of its answer. -/
theorem launch_inside_iff (appid pid : UInt32) :
    remoteServerLaunchApplication parse server appid pid reply ≠ .error .overflow ↔
      RequestFits server serviceTypeApp reply ∧
        (Sendable server serviceTypeApp reply → AnswerFits parse reply) := by
  have hargs := length_launchArgs appid pid
  have heq : remoteServerLaunchApplication parse server appid pid reply =
      invokeAction server serviceTypeApp (ascii "LaunchApplication") (launchArgs appid pid)
        (launchApplicationParse parse server) server reply := by
    rw [remoteServerLaunchApplication, sprintfInto, if_pos hargs]
    rfl
  have haction : (ascii "LaunchApplication").length ≤ 20 := show 17 ≤ 20 by omega
  have hshort : (launchArgs appid pid).length < 10000 := by omega
  rw [heq, not_invokeAction_overflow_iff haction hshort]
  refine and_congr Iff.rfl (imp_congr Iff.rfl ?_)
  unfold AnswerFits
  simp only [ne_eq, launchApplicationParse_eq_overflow, not_exists, not_and, not_not]
  constructor
  · intro h rsp e hreply hcode
    exact h rsp hreply hcode e
  · intro h rsp hreply hcode e
    exact h rsp e hreply hcode

/-- Setting a profile stays inside exactly if its lines fit. -/
theorem setClientProfile_inside_iff (pid : UInt32) :
    remoteServerSetClientProfile server pid reply ≠ .error .overflow ↔
      RequestFits server serviceTypeClp reply := by
  have hprofile := length_clientProfile
  have hid := length_profileId pid
  have hparam := length_strAppend (strAppend none (profileId pid)) clientProfile
  have hfirst := length_strAppend none (profileId pid)
  have heq : remoteServerSetClientProfile server pid reply =
      invokeAction server serviceTypeClp (ascii "SetClientProfile")
        ((strAppend (strAppend none (profileId pid)) clientProfile).getD [])
        (setClientProfileParse server) server reply := by
    rw [remoteServerSetClientProfile, sprintfInto, if_pos hid]
    rfl
  have hargs : ((strAppend (strAppend none (profileId pid)) clientProfile).getD []).length <
      10000 := by
    simp only [Option.getD_none, List.length_nil] at hfirst
    omega
  have haction : (ascii "SetClientProfile").length ≤ 20 := show 16 ≤ 20 by omega
  rw [heq, not_invokeAction_overflow_iff haction hargs]
  constructor
  · intro h
    exact h.1
  · intro h
    refine ⟨h, fun _ rsp _ _ hfault => ?_⟩
    cases hfault

/-- **The arrays of the control code** are long enough exactly for calls whose texts fit. -/
theorem control_call_inside_iff (parse : Option (List UInt8) → Option Element) (reply : Reply)
    (call : ControlCall) : call.Inside parse reply ↔ call.Fits parse reply := by
  cases call with
  | create ip port path => exact create_inside_iff ip port path
  | getApplicationList server apps pid filter => exact list_inside_iff apps pid filter
  | launchApplication server appid pid => exact launch_inside_iff appid pid
  | setClientProfile server pid => exact setClientProfile_inside_iff pid

/-- The path of a description of ninety bytes is too long for the request line. -/
theorem control_call_inside_fails :
    ¬ ∀ (parse : Option (List UInt8) → Option Element) (reply : Reply) (call : ControlCall),
      call.Inside parse reply := by
  intro h
  have hinside := h (fun _ => none) (.answered none)
    (.create (ascii "192.168.42.129") 80 (List.replicate 90 97))
  have hfits := (create_inside_iff _ _ _).mp hinside
  have hlines := hfits (by
    intro hreply
    cases hreply)
  exact absurd hlines.1 (by decide)

end MirrorLink.Analysis
