import MirrorLink.Analysis.AppList
import MirrorLink.Analysis.Launch

/-!
# Actions on any server and any reply

The three entries of `action_map` are invoked in the same way.  What keeps an invocation from
following a null pointer is a control URL and an address on the one side, and on the other a
document in which no first child is missing before a name differs; what keeps a reply of
another shape from changing the server is that an `AppURI` is scanned as a whole or not at
all (`action_safety_iff`).
-/

set_option autoImplicit false

namespace MirrorLink.Analysis

open MirrorLink.Library MirrorLink.Program

/-! ## The actions -/

/-- The entries of `action_map`. -/
inductive ActionName where
  | getApplicationList
  | launchApplication
  | setClientProfile
  deriving DecidableEq, Repr

namespace ActionName

def stype : ActionName → Fin 3
  | getApplicationList => serviceTypeApp
  | launchApplication => serviceTypeApp
  | setClientProfile => serviceTypeClp

def name : ActionName → List UInt8
  | getApplicationList => ascii "GetApplicationList"
  | launchApplication => ascii "LaunchApplication"
  | setClientProfile => ascii "SetClientProfile"

/-- The handler, on a server and the memory for applications. -/
def handler (parse : Option (List UInt8) → Option Element) (s : RemoteServer × AppHeap)
    (content : Option (List UInt8)) :
    ActionName → Except Fault (UInt8 × RemoteServer × AppHeap)
  | getApplicationList => getApplicationListParse parse s content
  | launchApplication => do
    let (code, server) ← launchApplicationParse parse s.1 content
    pure (code, server, s.2)
  | setClientProfile => do
    let (code, server) ← setClientProfileParse s.1 content
    pure (code, server, s.2)

/-- `remote_server_invoke_action` with the members of an entry. -/
def invoke (parse : Option (List UInt8) → Option Element) (s : RemoteServer × AppHeap)
    (args : List UInt8) (reply : Reply) (a : ActionName) :
    Except Fault (UInt16 × RemoteServer × AppHeap) :=
  invokeAction s.1 a.stype a.name args (fun content => a.handler parse s content) s reply

/-- The name of an action is at most twenty characters. -/
theorem length_name_le (a : ActionName) : a.name.length ≤ 20 := by
  cases a
  · show 18 ≤ 20
    omega
  · show 17 ≤ 20
    omega
  · show 16 ≤ 20
    omega

/-- The document has the shape the handler looks for; that of `SetClientProfile` looks at none. -/
def Shaped (parse : Option (List UInt8) → Option Element) (content : Option (List UInt8)) :
    ActionName → Prop
  | getApplicationList => ∃ listing root, elementAt appListingPath (parse content) = some listing ∧
      parse (some listing.content) = some root
  | launchApplication => ∃ uri ip port, elementAt appUriPath (parse content) = some uri ∧
      scanVncUri uri.content = (some ip, some port)
  | setClientProfile => False

end ActionName

section Calls

variable (parse : Option (List UInt8) → Option Element) (s : RemoteServer × AppHeap)

/-- An action does nothing with the state but hand it to its handler. -/
theorem invokeAction_map {σ τ : Type} (f : σ → τ) (server : RemoteServer) (stype : Fin 3)
    (action args : List UInt8) (handler : Option (List UInt8) → Except Fault (UInt8 × σ)) (t : σ)
    (reply : Reply) :
    (invokeAction server stype action args handler t reply >>= fun r => pure (r.1, f r.2)) =
      invokeAction server stype action args
        (fun content => handler content >>= fun r => pure (r.1, f r.2)) (f t) reply := by
  have hact : ∀ rp, (actOn handler t rp >>= fun r => pure (r.1, f r.2)) =
      actOn (fun content => handler content >>= fun r => pure (r.1, f r.2)) (f t) rp := by
    intro rp
    cases rp with
    | none => rfl
    | some rsp =>
      by_cases hcode : rsp.errcode = 200
      · rw [actOn, actOn, if_pos hcode, if_pos hcode]
        cases handler rsp.body <;> rfl
      · rw [actOn, actOn, if_neg hcode, if_neg hcode]
        rfl
  unfold invokeAction
  simp only [bind_assoc, hact]

/-- The calls of the control code are invocations. -/
theorem getApplicationList_eq_invoke (pid : UInt32) (filter : List UInt8) (reply : Reply) :
    remoteServerGetApplicationList parse s.1 s.2 pid filter reply =
      sprintfInto 100 (listArgs filter pid) >>= fun args =>
        ActionName.getApplicationList.invoke parse s args reply := rfl

/-- `remote_server_launch_application` is the action with its formatted arguments. -/
theorem launchApplication_eq_invoke (appid pid : UInt32) (reply : Reply) :
    (remoteServerLaunchApplication parse s.1 appid pid reply >>= fun r => pure (r.1, r.2, s.2)) =
      sprintfInto 100 (launchArgs appid pid) >>= fun args =>
        ActionName.launchApplication.invoke parse s args reply := by
  rw [remoteServerLaunchApplication, bind_assoc]
  congr 1
  funext args
  exact invokeAction_map (fun server => (server, s.2)) _ _ _ _ _ _ _

/-- `remote_server_set_client_profile` is the action with its formatted arguments. -/
theorem setClientProfile_eq_invoke (pid : UInt32) (reply : Reply) :
    (remoteServerSetClientProfile s.1 pid reply >>= fun r => pure (r.1, r.2, s.2)) =
      sprintfInto 50 (profileId pid) >>= fun buf =>
        ActionName.setClientProfile.invoke parse s
          ((strAppend (strAppend none buf) clientProfile).getD []) reply := by
  rw [remoteServerSetClientProfile, bind_assoc]
  congr 1
  funext buf
  exact invokeAction_map (fun server => (server, s.2)) _ _ _ _ _ _ _

end Calls

/-- A reply of the shape that is expected: status 200, with such a document. -/
def Expected (parse : Option (List UInt8) → Option Element) (a : ActionName)
    (rp : Option HttpRsp) : Prop :=
  ∃ rsp, rp = some rsp ∧ rsp.errcode = 200 ∧ a.Shaped parse rsp.body

/-- The action follows no null pointer, and a reply of another shape leaves the server as it
is. -/
structure InvokesSafely (parse : Option (List UInt8) → Option Element) (s : RemoteServer × AppHeap)
    (args : List UInt8) (reply : Reply) (a : ActionName) : Prop where
  no_null : a.invoke parse s args reply ≠ .error .nullPointer
  unchanged : ∀ rp, Brings s.1 a.stype a.name args reply rp → ¬ Expected parse a rp →
    ∃ ret apps, a.invoke parse s args reply = .ok (ret, s.1, apps)

/-! ## Handlers -/

/-- A null pointer is followed on the way down a path exactly if one is there. -/
theorem descend_eq_null_iff (names : List (List UInt8)) (root : Option Element) :
    descend names root = .error .nullPointer ↔ ¬ Followable names root := by
  rw [← exists_descend_iff]
  constructor
  · rintro h ⟨found, hfound⟩
    rw [h] at hfound
    cases hfound
  · intro h
    cases hd : descend names root with
    | ok found => exact absurd ⟨found, hd⟩ h
    | error fault =>
      rw [failsOnly_descend (P := fun fault => fault = .nullPointer) rfl names root fault hd]

/-- The document takes no handler to a null pointer, and what `sscanf` stores of an `AppURI`
that it does not read as a whole is what is there. -/
def Followed (parse : Option (List UInt8) → Option Element) (server : RemoteServer)
    (content : Option (List UInt8)) : ActionName → Prop
  | .getApplicationList => Followable appListingPath (parse content)
  | .launchApplication => Followable appUriPath (parse content) ∧
      ∀ uri ip, elementAt appUriPath (parse content) = some uri →
        scanVncUri uri.content = (some ip, none) → ip.length < 32 ∧ server.vncIp = ip
  | .setClientProfile => True

/-- The handler follows no null pointer, and a document of another shape leaves the server as it
is. -/
def HandlesSafely (parse : Option (List UInt8) → Option Element) (s : RemoteServer × AppHeap)
    (content : Option (List UInt8)) (a : ActionName) : Prop :=
  a.handler parse s content ≠ .error .nullPointer ∧
    (¬ a.Shaped parse content → ∃ code apps, a.handler parse s content = .ok (code, s.1, apps))

variable {parse : Option (List UInt8) → Option Element} {s : RemoteServer × AppHeap}
  {content : Option (List UInt8)}

/-- The handler of a listing is safe exactly if the path to the listing can be followed. -/
theorem handlesSafely_list_iff :
    HandlesSafely parse s content .getApplicationList ↔
      Followable appListingPath (parse content) := by
  constructor
  · rintro ⟨hnull, -⟩
    by_contra hfollow
    exact hnull (bind_eq_error.mpr (.inl ((descend_eq_null_iff _ _).mpr hfollow)))
  · intro hfollow
    obtain ⟨found, hfound⟩ := (exists_descend_iff _ _).mpr hfollow
    cases found with
    | none =>
      have hrun : ActionName.getApplicationList.handler parse s content = .ok (0, s) :=
        bind_eq_ok.mpr ⟨none, hfound, rfl⟩
      exact ⟨by rw [hrun]; simp, fun _ => ⟨0, s.2, hrun⟩⟩
    | some appListing =>
      have hrun : ActionName.getApplicationList.handler parse s content =
          .ok (0, (elementChildren (parse (some appListing.content))).foldl addApp s) :=
        bind_eq_ok.mpr ⟨some appListing, hfound, rfl⟩
      refine ⟨by rw [hrun]; simp, fun hshape => ⟨0, s.2, ?_⟩⟩
      have hnone : parse (some appListing.content) = none := by
        by_contra hsome
        obtain ⟨root, hroot⟩ := Option.ne_none_iff_exists'.mp hsome
        exact hshape ⟨appListing, root, (descend_eq_some_iff _ _ _ _).mp hfound, hroot⟩
      rw [hrun, hnone]
      rfl

/-- What the handler of a launch does with the text at the end of its path. -/
theorem launchHandler_eq {uri : Element} (hat : elementAt appUriPath (parse content) = some uri) :
    ActionName.launchApplication.handler parse s content =
      storeVncIp s.1 (scanVncUri uri.content).1 >>= fun server =>
        (scanVncUri uri.content).2.elim (.ok (1, server, s.2))
          fun port => .ok (0, { server with vncPort := port }, s.2) := by
  show (launchApplicationParse parse s.1 content >>= _) = _
  rw [launchApplicationParse_eq s.1 hat, bind_assoc]
  congr 1
  funext server
  cases (scanVncUri uri.content).2 <;> rfl

/-- Storing the host follows no null pointer. -/
theorem storeVncIp_ne_null (server : RemoteServer) (ip : Option (List UInt8)) :
    storeVncIp server ip ≠ .error .nullPointer := by
  cases ip with
  | none => simp [storeVncIp, pure, Except.pure]
  | some ip =>
    intro h
    rcases bind_eq_error.mp h with h | ⟨text, -, h⟩
    · exact absurd (failsOnly_sprintfInto (P := fun fault => fault = .overflow) rfl 32 ip _ h)
        (by decide)
    · cases h

/-- The handler of a launch is safe exactly if its reply has what it follows. -/
theorem handlesSafely_launch_iff :
    HandlesSafely parse s content .launchApplication ↔
      Followed parse s.1 content .launchApplication := by
  constructor
  · rintro ⟨hnull, hsame⟩
    refine ⟨?_, fun uri ip hat hscan => ?_⟩
    · by_contra hfollow
      refine hnull (bind_eq_error.mpr (.inl (bind_eq_error.mpr (.inl ?_))))
      exact (descend_eq_null_iff _ _).mpr hfollow
    · have hshape : ¬ ActionName.launchApplication.Shaped parse content := by
        rintro ⟨uri', ip', port, hat', hscan'⟩
        rw [hat] at hat'
        cases hat'
        rw [hscan] at hscan'
        cases hscan'
      obtain ⟨code, apps, hrun⟩ := hsame hshape
      rw [launchHandler_eq hat, hscan] at hrun
      obtain ⟨server, hstore, hrun⟩ := bind_eq_ok.mp hrun
      obtain ⟨text, hsprintf, hstore⟩ := bind_eq_ok.mp hstore
      unfold sprintfInto at hsprintf
      split_ifs at hsprintf with hlt
      cases hsprintf
      cases hstore
      refine ⟨hlt, ?_⟩
      have hserver : { s.1 with vncIp := ip } = s.1 :=
        congrArg (fun r : UInt8 × RemoteServer × AppHeap => r.2.1) (Except.ok.inj hrun)
      rw [← hserver]
  · rintro ⟨hfollow, hpart⟩
    obtain ⟨found, hfound⟩ := (exists_descend_iff _ _).mpr hfollow
    cases found with
    | none =>
      have hrun : ActionName.launchApplication.handler parse s content = .ok (0, s.1, s.2) :=
        bind_eq_ok.mpr ⟨(0, s.1), bind_eq_ok.mpr ⟨none, hfound, rfl⟩, rfl⟩
      exact ⟨by rw [hrun]; simp, fun _ => ⟨0, s.2, hrun⟩⟩
    | some uri =>
      have hat : elementAt appUriPath (parse content) = some uri :=
        (descend_eq_some_iff _ _ _ _).mp hfound
      rw [HandlesSafely, launchHandler_eq hat]
      refine ⟨fun h => ?_, fun hshape => ?_⟩
      · rcases bind_eq_error.mp h with h | ⟨server, -, h⟩
        · exact storeVncIp_ne_null _ _ h
        · cases hport : (scanVncUri uri.content).2 <;> rw [hport] at h <;> cases h
      · cases hip : (scanVncUri uri.content).1 with
        | none =>
          rw [scanVncUri_snd_none hip]
          exact ⟨1, s.2, rfl⟩
        | some ip =>
          cases hport : (scanVncUri uri.content).2 with
          | some port => exact absurd ⟨uri, ip, port, hat, Prod.ext hip hport⟩ hshape
          | none =>
            obtain ⟨hlt, hsame⟩ := hpart uri ip hat (Prod.ext hip hport)
            have hserver : { s.1 with vncIp := ip } = s.1 := by rw [← hsame]
            rw [storeVncIp_eq _ _ hlt, hserver]
            exact ⟨1, s.2, rfl⟩

/-- **So is every handler.** -/
theorem handlesSafely_iff (a : ActionName) :
    HandlesSafely parse s content a ↔ Followed parse s.1 content a := by
  cases a with
  | getApplicationList => exact handlesSafely_list_iff
  | launchApplication => exact handlesSafely_launch_iff
  | setClientProfile =>
    refine iff_of_true ⟨?_, fun _ => ⟨0, s.2, rfl⟩⟩ trivial
    intro h
    cases h

/-! ## Invocations -/

/-- The request of an action has a path and an address. -/
def Addressed (server : RemoteServer) (stype : Fin 3) : Prop :=
  (server.sinfo stype).curl ≠ none ∧ server.ip ≠ none

/-- An action that follows no null pointer has an address to send to. -/
theorem addressed_of_no_null {args : List UInt8} {reply : Reply} {a : ActionName}
    (h : a.invoke parse s args reply ≠ .error .nullPointer) : Addressed s.1 a.stype := by
  constructor
  · intro hpath
    refine h ?_
    rw [ActionName.invoke, invokeAction, actionRequest, hpath]
    rfl
  · intro hip
    cases hpath : (s.1.sinfo a.stype).curl with
    | none =>
      refine h ?_
      rw [ActionName.invoke, invokeAction, actionRequest, hpath]
      rfl
    | some path =>
      obtain ⟨rq, hrq, -⟩ := actionRequest_eq s.1 a.stype args a.length_name_le hpath
      refine h ?_
      rw [ActionName.invoke, invokeAction, hrq, hip]
      rfl

/-- With a path and an address, only the handler can come to a null pointer. -/
theorem no_null_of_handled {args : List UInt8} {reply : Reply} {a : ActionName}
    (haddressed : Addressed s.1 a.stype)
    (hhandled : ∀ rsp, Brings s.1 a.stype a.name args reply (some rsp) → rsp.errcode = 200 →
      a.handler parse s rsp.body ≠ .error .nullPointer) :
    a.invoke parse s args reply ≠ .error .nullPointer := by
  obtain ⟨path, hpath⟩ := Option.ne_none_iff_exists'.mp haddressed.1
  obtain ⟨ip, hip⟩ := Option.ne_none_iff_exists'.mp haddressed.2
  obtain ⟨rq, hrq, -⟩ := actionRequest_eq s.1 a.stype args a.length_name_le hpath
  intro hnull
  have heq : a.invoke parse s args reply = httpExchange ip s.1.port rq reply >>=
      actOn (fun content => a.handler parse s content) s := by
    rw [ActionName.invoke, invokeAction, hrq, hip]
    rfl
  rw [heq] at hnull
  rcases bind_eq_error.mp hnull with hexchange | ⟨rp, hrp, hact⟩
  · exact absurd (failsOnly_httpExchange (P := fun fault => fault = .overflow) rfl _ _ _ _ _
      hexchange) (by decide)
  · obtain ⟨rsp, rfl, hcode, hhandler⟩ := actOn_eq_error.mp hact
    exact hhandled rsp ⟨rq, ip, hrq, hip, hrp⟩ hcode hhandler

/-- **Actions on any server and any reply.**  An action is safe exactly if there are a control
URL and an address, and the document of a 200 is one that the handler can follow. -/
theorem action_safety_iff (parse : Option (List UInt8) → Option Element)
    (s : RemoteServer × AppHeap) (args : List UInt8) (reply : Reply) (a : ActionName) :
    InvokesSafely parse s args reply a ↔
      Addressed s.1 a.stype ∧ ∀ rsp, Brings s.1 a.stype a.name args reply (some rsp) →
        rsp.errcode = 200 → Followed parse s.1 rsp.body a := by
  have hinvoke : ∀ rp, Brings s.1 a.stype a.name args reply rp →
      a.invoke parse s args reply = actOn (fun content => a.handler parse s content) s rp :=
    fun rp hbrings => hbrings.invokeAction_eq
  constructor
  · rintro ⟨hnull, hsame⟩
    refine ⟨addressed_of_no_null hnull, fun rsp hbrings hcode => ?_⟩
    have hrun := hinvoke _ hbrings
    rw [actOn, if_pos hcode] at hrun
    refine (handlesSafely_iff a).mp ⟨fun h => ?_, fun hshape => ?_⟩
    · exact hnull (hrun.trans (bind_eq_error.mpr (.inl h)))
    · have hother : ¬ Expected parse a (some rsp) := by
        rintro ⟨rsp', hsome, -, hshape'⟩
        cases hsome
        exact hshape hshape'
      obtain ⟨ret, apps, hok⟩ := hsame _ hbrings hother
      obtain ⟨⟨code, s'⟩, hhandler, hret⟩ := bind_eq_ok.mp (hrun.symm.trans hok)
      refine ⟨code, apps, hhandler.trans ?_⟩
      rw [(Prod.mk.inj (Except.ok.inj hret)).2]
  · rintro ⟨haddressed, hfollowed⟩
    refine ⟨no_null_of_handled haddressed fun rsp hbrings hcode =>
      ((handlesSafely_iff a).mpr (hfollowed rsp hbrings hcode)).1, fun rp hbrings hother => ?_⟩
    rw [hinvoke rp hbrings]
    cases rp with
    | none => exact ⟨0, s.2, rfl⟩
    | some rsp =>
      rw [actOn]
      by_cases hcode : rsp.errcode = 200
      · have hshape : ¬ a.Shaped parse rsp.body := fun h => hother ⟨rsp, rfl, hcode, h⟩
        obtain ⟨code, apps, hhandler⟩ :=
          ((handlesSafely_iff a).mpr (hfollowed rsp hbrings hcode)).2 hshape
        rw [if_pos hcode, hhandler]
        exact ⟨_, apps, rfl⟩
      · rw [if_neg hcode]
        exact ⟨_, s.2, rfl⟩

/-- A device that gives its type and no service. -/
def serviceLessDevice : Element :=
  .mk (ascii "root") [] [.mk (ascii "device") []
    [.mk (ascii "deviceType") (ascii "urn:schemas-upnp-org:device:TmServerDevice:1") []]]

/-- Without a control URL. -/
theorem action_safety_fails :
    ¬ ∀ (parse : Option (List UInt8) → Option Element) (ip : List UInt8) (port : UInt16)
      (path : List UInt8) (description : Reply) (server : RemoteServer) (apps : AppHeap)
      (args : List UInt8) (reply : Reply) (a : ActionName),
      remoteServerCreate parse ip port path description = .ok (some server) →
      InvokesSafely parse (server, apps) args reply a := by
  intro h
  have hsafe := h (fun _ => some serviceLessDevice) (ascii "192.168.42.129") 8080 (ascii "/d.xml")
    (.answered (some ⟨⟨200, some (ascii "<root/>")⟩, by decide⟩))
    (RemoteServer.zero (ascii "192.168.42.129") 8080) AppHeap.empty [] .refused .getApplicationList
    rfl
  exact hsafe.no_null rfl

end MirrorLink.Analysis
