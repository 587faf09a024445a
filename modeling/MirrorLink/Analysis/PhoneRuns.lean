import MirrorLink.Analysis.HttpReassembly
import MirrorLink.Analysis.Launch
import MirrorLink.Analysis.Listing
import MirrorLink.Analysis.QtRefinement
import MirrorLink.Analysis.SiblingOrder
import MirrorLink.Interface.ApplicationIds

/-!
# From the start button to a session

A `Phone` is what the client looks for: it answers with a description of one server that has a
service for its applications, and with a listing of them.  Each answer is a well-formed response
with status 200 that arrives in any chunks (`Answer200`).

The threads are connected and nothing waits between them, the client has no server, and the lines
of its requests fit into their arrays.  When the start button is pressed for a phone then, however
the threads take their turns the list comes to show its applications, each in a row of its own, and
a double click on a row has the phone asked for a session with that application
(`applications_reach_window`).
-/

set_option autoImplicit false

namespace MirrorLink.Analysis

open MirrorLink.Library MirrorLink.Program

/-! ## Over the network -/

/-- How an exchange ends whose connection meets these answers of the system; nothing if it does
not return. -/
def networkReply (calls : List (List Answer)) : Option Reply :=
  (receive HttpRsp.zero (Buffer.init 0) calls).map fun rsp =>
    .answered (if h : rsp.errcode = 0 then none else some ⟨rsp, h⟩)

/-- That is how `http_client_send` ends. -/
theorem httpExchange_networkReply (ip : List UInt8) (port : UInt16) (req : HttpReq)
    (calls : List (List Answer)) {wbuf : List UInt8} (hwbuf : requestText ip port req = some wbuf) :
    (httpClientSend ip port req (some calls)).map (fun e => Except.ok e.response) =
      (networkReply calls).map (httpExchange ip port req) := by
  rw [httpClientSend, networkReply, hwbuf]
  show Option.map _ (receive HttpRsp.zero (Buffer.init 0) calls >>= _) = _
  cases receive HttpRsp.zero (Buffer.init 0) calls with
  | none => rfl
  | some rsp =>
    show some (Except.ok (if rsp.errcode = 0 then none else some rsp)) =
      some (httpExchange ip port req _)
    rw [httpExchange, hwbuf]
    split <;> rfl

/-- A response with status 200, and how it arrives. -/
structure Answer200 where
  response : HttpResponse
  ok : response.code = 200
  chunks : List Chunk
  last : Chunk
  ending : Ending
  later : List (List Answer)
  arrives : chunks.flatMap Chunk.bytes ++ last.bytes = response.bytes

namespace Answer200

/-- The answers of the system to each call of `conn_read_all`. -/
def calls (a : Answer200) : List (List Answer) := delivers a.chunks a.last a.ending a.later

/-- What `http_client_get_body` gives. -/
def body (a : Answer200) : Option (List UInt8) := some a.response.body

/-- The reads of an answer end with it. -/
theorem networkReply_calls (a : Answer200) :
    ∃ h, networkReply a.calls = some (.answered (some ⟨⟨200, a.body⟩, h⟩)) := by
  have hne : 0 < a.response.bytes.length := by
    have hmiddle := length_middle_ge a.response.toResponseParts
    rw [bytes_eq_front, List.length_append, length_fromLength]
    omega
  have hreceive := receive_delivers a.response a.chunks a.last a.ending a.later 0 (Buffer.init 0) 0
    (Buffer.holds_init 0) hne a.arrives.symm
  rw [a.ok] at hreceive
  refine ⟨show (200 : UInt16) ≠ 0 by decide, ?_⟩
  show Option.map _ (receive ⟨0, none⟩ _ _) = _
  rw [calls, hreceive]
  rfl

/-- Its reply. -/
theorem eq_of_networkReply {a : Answer200} {reply : Reply} (h : networkReply a.calls = some reply) :
    ∃ h, reply = .answered (some ⟨⟨200, a.body⟩, h⟩) := by
  obtain ⟨hcode, hreply⟩ := a.networkReply_calls
  exact ⟨hcode, Option.some_inj.mp (h.symm.trans hreply)⟩

end Answer200

/-! ## The phone -/

structure Phone (parse : Option (List UInt8) → Option Element) where
  description : Answer200
  root : Element
  described : parse description.body = some root
  wellFormed : WellFormed root
  inOrder : InOrder (some root)
  /-- The service for applications. -/
  service : Element
  service_mem : service ∈ services root
  service_type : NamesType serviceTypeApp service
  control : Element
  control_mem : control ∈ service.children
  control_name : control.name = ascii "controlURL"
  control_ne_nil : control.content ≠ []
  listing : Answer200
  appListing : Element
  appListing_at : elementAt appListingPath (parse listing.body) = some appListing
  appRoot : Element
  lists : parse (some appListing.content) = some appRoot
  numbered : ∀ e ∈ appRoot.children, e.name = ascii "app" → NumberedApp e

namespace Phone

variable {parse : Option (List UInt8) → Option Element}

/-- The applications of the listing. -/
def apps (p : Phone parse) : List Element :=
  p.appRoot.children.filter fun e => e.name = ascii "app"

/-- The path that actions are sent to. -/
def controlPath (p : Phone parse) : List UInt8 := p.control.content

end Phone

/-- An answer to a launch: the address of a session, which fits into `vnc_ip`. -/
structure LaunchAnswer (parse : Option (List UInt8) → Option Element) where
  answer : Answer200
  uri : Element
  uri_at : elementAt appUriPath (parse answer.body) = some uri
  host : List UInt8
  port : UInt16
  isVncUri : IsVncUri uri.content host port
  fits : host.length < 32

variable {parse : Option (List UInt8) → Option Element}

/-! ## The description -/

/-- What is stored behind a server leaves its address alone. -/
theorem address_run_stores (ip : List UInt8) (port : UInt16) {es : List Store}
    (hes : .server ∉ es) {s : RemoteServer} {r : Option RemoteServer}
    (h : es.foldlM (Store.run ip port) (some s) = .ok r) :
    ∃ t, r = some t ∧ t.ip = s.ip ∧ t.port = s.port := by
  induction es generalizing s with
  | nil =>
    cases h
    exact ⟨s, rfl, rfl, rfl⟩
  | cons e es ih =>
    rw [List.mem_cons, not_or] at hes
    rw [List.foldlM_cons] at h
    obtain ⟨r', hfirst, hrest⟩ := bind_eq_ok.mp h
    have hkept : ∃ t, r' = some t ∧ t.ip = s.ip ∧ t.port = s.port := by
      cases e with
      | server => exact absurd rfl hes.1
      | uuid content =>
        cases hfirst
        exact ⟨_, rfl, rfl, rfl⟩
      | url type member content =>
        replace hfirst : appendUrl (some s) type member content = .ok r' := hfirst
        unfold appendUrl at hfirst
        obtain ⟨s', hs', hfirst⟩ := bind_eq_ok.mp hfirst
        cases hs'
        split at hfirst
        · cases hfirst
          exact ⟨_, rfl, rfl, rfl⟩
        · split at hfirst
          · cases hfirst
            exact ⟨_, rfl, rfl, rfl⟩
          · cases hfirst
    obtain ⟨t, rfl, hip, hport⟩ := hkept
    obtain ⟨u, hu, hip', hport'⟩ := ih hes.2 hrest
    exact ⟨u, hu, hip'.trans hip, hport'.trans hport⟩

/-- The server has the address of the phone, and the path for its actions. -/
structure IsServerOf (p : Phone parse) (host : List UInt8) (port : UInt16) (s : RemoteServer) :
    Prop where
  ip : s.ip = some host
  port : s.port = port
  path : (s.sinfo serviceTypeApp).curl = some p.controlPath

/-- The path that is stored for the actions of its applications. -/
theorem urlText_phone (p : Phone parse) :
    strAppend none ((stores p.root).flatMap (Store.urlText serviceTypeApp .curl)) =
      some p.controlPath := by
  have hunique : ((services p.root).filter fun s => NamesType serviceTypeApp s) = [p.service] := by
    have hmem : p.service ∈ (services p.root).filter fun s => NamesType serviceTypeApp s :=
      List.mem_filter.mpr ⟨p.service_mem, decide_eq_true p.service_type⟩
    have hlength := le_antisymm (p.wellFormed.one_service serviceTypeApp)
      (List.length_pos_of_mem hmem)
    obtain ⟨s, hs⟩ := List.length_eq_one_iff.mp hlength
    rw [hs] at hmem ⊢
    rw [List.mem_singleton.mp hmem]
  have htext : HasText p.service (ascii "controlURL")
      (strAppend none (textAt (ascii "controlURL") p.service)) :=
    (hasText_of_unique (p.wellFormed.service_children _ p.service_mem _ (by simp)) _).mpr rfl
  rw [urlText_stores_of_safe p.wellFormed (safe_of_inOrder p.inOrder), hunique,
    List.flatMap_singleton]
  show strAppend none (textAt (ascii "controlURL") p.service) = _
  rw [htext.1 p.control p.control_mem p.control_name]
  exact strAppend_none p.control_ne_nil

/-- **The description** makes a server. -/
theorem describe_phone (p : Phone parse) {host : List UInt8} (hhost : host ≠ []) (port : UInt16) :
    ∃ s, describe parse host port (some ⟨200, p.description.body⟩) = .ok (some s) ∧
      IsServerOf p host port s := by
  have hdescribe : describe parse host port (some ⟨200, p.description.body⟩) =
      p.root.children.foldlM (rootChild host port) none := by
    show (elementChildren (parse p.description.body)).foldlM (rootChild host port) none = _
    rw [p.described]
    rfl
  obtain ⟨es, hes, hnone⟩ := stores_eq_of_inOrder p.wellFormed p.inOrder
  rcases ends_description host port (some p.root) with ⟨-, server, hrun, -⟩ | ⟨hbad, -⟩
  · replace hrun : p.root.children.foldlM (rootChild host port) none = .ok server := hrun
    rw [hdescribe, hrun]
    rw [run_description, hes, List.foldlM_cons] at hrun
    replace hrun : es.foldlM (Store.run host port) (some (RemoteServer.zero host port)) =
      .ok server := hrun
    obtain ⟨t, rfl, -, hurl⟩ := run_stores host port hnone hrun
    obtain ⟨t', ht', hip, hport⟩ := address_run_stores host port hnone hrun
    cases ht'
    have hpath := urlText_phone p
    rw [hes, List.flatMap_cons] at hpath
    refine ⟨t, rfl, hip.trans (strAppend_none hhost), hport, ?_⟩
    exact (hurl serviceTypeApp .curl).trans hpath
  · exact absurd p.inOrder hbad

/-! ## One slot -/

section Slots

variable {p : Phone parse} {host : List UInt8} {port : UInt16}

/-- A request is sent to the server of a phone. -/
theorem IsServerOf.sendable {s : RemoteServer} (h : IsServerOf p host port s)
    (hpost : LinesFit (ascii "POST") host p.controlPath port) (reply : Reply) :
    Sendable s serviceTypeApp reply :=
  ⟨p.controlPath, host, h.path, h.ip, fun _ => h.port ▸ hpost⟩

/-- **Creating the server.** -/
theorem remoteServerCreate_phone (hhost : host ≠ []) {path : List UInt8}
    (hget : LinesFit (ascii "GET") host path port) {create : Reply}
    (hcreate : networkReply p.description.calls = some create) :
    ∃ s, remoteServerCreate parse host port path create = .ok (some s) ∧
      IsServerOf p host port s ∧ s.appList = none := by
  obtain ⟨hcode, rfl⟩ := Answer200.eq_of_networkReply hcreate
  obtain ⟨s, hdescribe, hs⟩ := describe_phone p hhost port
  have hreturns := (httpExchange_returns_iff host port (httpClientMakeReq (ascii "GET") path)
    (.answered (some ⟨⟨200, p.description.body⟩, hcode⟩)) nofun).mpr fun _ => hget
  obtain ⟨rp, hrp⟩ := hreturns
  have hrsp : rp = some ⟨200, p.description.body⟩ := by
    rw [httpExchange] at hrp
    split at hrp
    · cases hrp
    · cases hrp
      rfl
  rw [hrsp] at hrp
  have hrun : remoteServerCreate parse host port path
      (.answered (some ⟨⟨200, p.description.body⟩, hcode⟩)) = .ok (some s) :=
    bind_eq_ok.mpr ⟨_, hrp, hdescribe⟩
  exact ⟨s, hrun, hs, noApps_remoteServerCreate hrun s rfl⟩

/-- **Fetching the listing.** -/
theorem getApplicationList_phone {s : RemoteServer} (hs : IsServerOf p host port s)
    (hpost : LinesFit (ascii "POST") host p.controlPath port) (apps : AppHeap) {list : Reply}
    (hlist : networkReply p.listing.calls = some list) :
    remoteServerGetApplicationList parse s apps 0 (ascii "*") list =
      .ok (0, p.appRoot.children.foldl addApp (s, apps)) := by
  obtain ⟨hcode, rfl⟩ := Answer200.eq_of_networkReply hlist
  have hfilter : (ascii "*").length = 1 := rfl
  have hlength := length_listArgs (ascii "*") 0
  have hpid := length_decimalInt_le 0
  have haction : (ascii "GetApplicationList").length ≤ 20 := show 18 ≤ 20 by omega
  have hargs : (listArgs (ascii "*") 0).length < 100 := by omega
  obtain ⟨rp, hbrings⟩ := (exists_brings_iff haction (Nat.lt_trans hargs (by omega))).mpr
    (hs.sendable hpost (.answered (some ⟨⟨200, p.listing.body⟩, hcode⟩)))
  rw [getApplicationList_eq parse apps hargs, hbrings.invokeAction_eq, hbrings.eq_some]
  have hdescend : descend appListingPath (parse p.listing.body) = .ok (some p.appListing) :=
    (descend_eq_some_iff _ _ _ _).mpr p.appListing_at
  have hparse : getApplicationListParse parse (s, apps) p.listing.body =
      .ok (0, p.appRoot.children.foldl addApp (s, apps)) := by
    refine bind_eq_ok.mpr ⟨some p.appListing, hdescend, ?_⟩
    show Except.ok (0, (elementChildren (parse (some p.appListing.content))).foldl _ _) = _
    rw [p.lists]
    rfl
  show (getApplicationListParse parse (s, apps) p.listing.body >>= _) = _
  rw [hparse]
  rfl

/-- **`onStart`**, with no server before. -/
theorem onStart_phone {c : MirrorLinkClient} (hserver : c.server = none) (hhost : host ≠ [])
    {path : List UInt8} (hget : LinesFit (ascii "GET") host path port)
    (hpost : LinesFit (ascii "POST") host p.controlPath port) {create list : Reply}
    (hcreate : networkReply p.description.calls = some create)
    (hlist : networkReply p.listing.calls = some list) :
    ∃ c' s, onStart parse c host port path create list = .ok (c', (p.apps.map appOf).reverse) ∧
      c'.server = some s ∧ IsServerOf p host port s := by
  obtain ⟨s, hs, hserverOf, hnone⟩ := remoteServerCreate_phone hhost hget hcreate
  have hfetch := getApplicationList_phone hserverOf hpost c.apps hlist
  obtain ⟨as, hlinked⟩ := addApps_spec p.appRoot.children (s, c.apps)
  have hemit := emitApps_of_none hlinked hnone
  have hframe := foldl_addApp_frame p.appRoot.children (s, c.apps)
  generalize p.appRoot.children.foldl addApp (s, c.apps) = r at *
  refine ⟨⟨some r.1, freeAll r.2 as⟩, r.1, bind_eq_ok.mpr ⟨some s, ?_, ?_⟩, rfl, ?_⟩
  · rw [hserver]
    exact hs
  · exact bind_eq_ok.mpr ⟨_, hfetch, bind_eq_ok.mpr ⟨_, hemit, rfl⟩⟩
  · rw [hframe]
    exact ⟨hserverOf.ip, hserverOf.port, hserverOf.path⟩

/-- **`onLaunch`.** -/
theorem onLaunch_phone {c : MirrorLinkClient} {s : RemoteServer} (hserver : c.server = some s)
    (hs : IsServerOf p host port s) (hpost : LinesFit (ascii "POST") host p.controlPath port)
    (appid : UInt32) (a : LaunchAnswer parse) {launch : Reply}
    (hlaunch : networkReply a.answer.calls = some launch) :
    ∃ c', slotStep parse c (.onLaunch appid launch) =
      .ok (c', [.vncSessionStart a.host a.port]) := by
  obtain ⟨hcode, rfl⟩ := Answer200.eq_of_networkReply hlaunch
  obtain ⟨rp, hbrings⟩ := (brings_launch_iff s appid _).mpr (hs.sendable hpost
    (.answered (some ⟨⟨200, a.answer.body⟩, hcode⟩)))
  have hscan := scanVncUri_of_isVncUri a.isVncUri
  have hact : actOn (launchApplicationParse parse s) s rp =
      .ok (0, { s with vncIp := a.host, vncPort := a.port }) := by
    rw [hbrings.eq_some]
    show (launchApplicationParse parse s a.answer.body >>= _) = _
    rw [launchApplicationParse_eq s a.uri_at, hscan, storeVncIp_eq s a.host a.fits]
    rfl
  have hrun := (onLaunch_eq_ok hserver).mpr ⟨rp, 0, _, hbrings, hact, rfl, rfl⟩
  exact ⟨_, bind_eq_ok.mpr ⟨_, hrun, rfl⟩⟩

end Slots

/-! ## Both threads -/

/-- The threads are connected, and nothing waits between them. -/
structure Idle {C W M : Type} (qt : QtThreads.Qt C W M) (q : QtThreads.Gui C W M) : Prop where
  running : q.manager.running = true
  connected : q.manager.connected = true
  toClient : qt.clientCalls.Holds q.manager.toClient []
  toWindow : qt.windowCalls.Holds q.manager.toWindow []

/-- A turn of one of the threads, in which the phone is asked. -/
def IsTurn (create list : Reply) (event : GuiEvent) : Prop :=
  event = .windowTurn ∨ ∃ launch, event = .clientTurn create list launch

def isWindowTurn : GuiEvent → Bool
  | .windowTurn => true
  | _ => false

section Turns

variable {p : Phone parse} {host path : List UInt8} {port : UInt16} {create list : Reply} {g : Gui}
  {event : GuiEvent} {events : List GuiEvent}

/-- The client has not yet taken the start. -/
structure Requested (host path : List UInt8) (port : UInt16) (g : Gui) : Prop where
  manager : g.manager = ⟨[.start host port path], []⟩
  items : g.window.items = []
  server : g.client.server = none

/-- The rows of the phone's applications, the last one first. -/
def phoneRows (p : Phone parse) : List AppItem :=
  (p.apps.map appOf).reverse.map fun app => appItem (emitAddApp app)

/-- The client has told the window of all applications. -/
structure Told (p : Phone parse) (host : List UInt8) (port : UInt16) (g : Gui) : Prop where
  toClient : g.manager.toClient = []
  shown : g.shown = phoneRows p
  server : ∃ s, g.client.server = some s ∧ IsServerOf p host port s

/-- What has not been shown yet is a part of the list. -/
theorem Told.length_toWindow (h : Told p host port g) :
    g.manager.toWindow.length ≤ p.apps.length := by
  have hlength := congrArg List.length h.shown
  rw [Gui.shown, phoneRows, List.length_append, List.length_map, List.length_map,
    List.length_reverse, List.length_map] at hlength
  omega

/-- The client takes the start. -/
theorem Requested.clientTurn (h : Requested host path port g) (hhost : host ≠ [])
    (hget : LinesFit (ascii "GET") host path port)
    (hpost : LinesFit (ascii "POST") host p.controlPath port)
    (hcreate : networkReply p.description.calls = some create)
    (hlist : networkReply p.listing.calls = some list) (launch : Reply) :
    ∃ g', guiStep parse g (.clientTurn create list launch) = .ok g' ∧ Told p host port g' := by
  obtain ⟨c, s, hstart, hserver, hs⟩ := onStart_phone h.server hhost hget hpost hcreate hlist
  have hstep : guiStep parse g (.clientTurn create list launch) =
      .ok ⟨g.window, ⟨[], ((p.apps.map appOf).reverse).map emitAddApp⟩, c⟩ := by
    show takeSignal parse create list launch g = _
    rw [takeSignal, h.manager]
    exact bind_eq_ok.mpr ⟨_, hstart, rfl⟩
  refine ⟨_, hstep, rfl, ?_, s, hserver, hs⟩
  rw [Gui.shown, h.items, List.nil_append, phoneRows, List.map_map]
  rfl

/-- **A turn** afterwards takes the window one row further, or does nothing. -/
theorem Told.turn (h : Told p host port g) (hturn : IsTurn create list event) :
    ∃ g', guiStep parse g event = .ok g' ∧ Told p host port g' ∧ g'.manager.toWindow.length =
      g.manager.toWindow.length - if isWindowTurn event then 1 else 0 := by
  rcases hturn with rfl | ⟨launch, rfl⟩
  · refine ⟨takeAddApp g, rfl, ?_⟩
    unfold takeAddApp
    cases hqueue : g.manager.toWindow with
    | nil => exact ⟨h, by simp [hqueue]⟩
    | cons app rest =>
      refine ⟨⟨h.toClient, ?_, h.server⟩, rfl⟩
      show (g.window.items ++ [appItem app]) ++ rest.map appItem = phoneRows p
      rw [← h.shown, Gui.shown, hqueue, List.map_cons, List.append_assoc]
      rfl
  · refine ⟨g, ?_, h, rfl⟩
    show takeSignal parse create list launch g = _
    rw [takeSignal, h.toClient]
    rfl

/-- Turns of either thread keep what the client has been told. -/
theorem Told.turns (h : Told p host port g) (hturns : ∀ event ∈ events, IsTurn create list event) :
    ∃ g', guiRun parse g events = .ok g' ∧ Told p host port g' ∧ g'.manager.toWindow.length =
      g.manager.toWindow.length - events.countP isWindowTurn := by
  induction events generalizing g with
  | nil => exact ⟨g, rfl, h, rfl⟩
  | cons event events ih =>
    obtain ⟨g₁, hstep, h₁, hlength₁⟩ := h.turn (hturns event List.mem_cons_self)
    obtain ⟨g₂, hrun, h₂, hlength₂⟩ := ih h₁ fun e he => hturns e (List.mem_cons_of_mem _ he)
    refine ⟨g₂, bind_eq_ok.mpr ⟨g₁, hstep, hrun⟩, h₂, ?_⟩
    rw [hlength₂, hlength₁, List.countP_cons]
    omega

/-- The list is on its way after any turns. -/
theorem Requested.turns (h : Requested host path port g) (hhost : host ≠ [])
    (hget : LinesFit (ascii "GET") host path port)
    (hpost : LinesFit (ascii "POST") host p.controlPath port)
    (hcreate : networkReply p.description.calls = some create)
    (hlist : networkReply p.listing.calls = some list)
    (hturns : ∀ event ∈ events, IsTurn create list event) :
    ∃ g', guiRun parse g events = .ok g' ∧ (Requested host path port g' ∨ Told p host port g') := by
  induction events with
  | nil => exact ⟨g, rfl, .inl h⟩
  | cons event events ih =>
    have hrest : ∀ e ∈ events, IsTurn create list e := fun e he =>
      hturns e (List.mem_cons_of_mem _ he)
    rcases hturns event List.mem_cons_self with rfl | ⟨launch, rfl⟩
    · obtain ⟨g', hrun, hg'⟩ := ih hrest
      refine ⟨g', bind_eq_ok.mpr ⟨g, ?_, hrun⟩, hg'⟩
      show Except.ok (takeAddApp g) = _
      rw [takeAddApp, h.manager]
    · obtain ⟨g₁, hstep, h₁⟩ := h.clientTurn hhost hget hpost hcreate hlist launch
      obtain ⟨g₂, hrun, h₂, -⟩ := h₁.turns hrest
      exact ⟨g₂, bind_eq_ok.mpr ⟨g₁, hstep, hrun⟩, .inr h₂⟩

end Turns

/-! ## A phone with two applications -/

/-- A word that is found at one place only. -/
theorem one_place {word text : List UInt8} {k : ℕ} (hword : word ≠ [])
    (h : ∀ i < text.length, word <+: text.drop i → i = k) (i : ℕ) (hi : word <+: text.drop i) :
    i = k :=
  h i (lt_length_of_occurs hword hi) hi

/-- A word that stands nowhere in the text stands at no place. -/
theorem no_place {word text : List UInt8} (hword : word ≠ [])
    (h : ∀ i < text.length, ¬ word <+: text.drop i) (i : ℕ) : ¬ word <+: text.drop i :=
  fun hi => h i (lt_length_of_occurs hword hi) hi

/-- A response with nothing but a body and its length. -/
def plainParts (body : List UInt8) : ResponseParts := ⟨.v10, 200, ascii " OK", [], [], body⟩

def descriptionResponse : HttpResponse where
  toResponseParts := plainParts descriptionText
  code_ge := by decide
  code_le := by decide
  reason_line := by decide
  reason_blank := by decide
  lines := nofun
  one_length := one_place (by decide) (by decide +kernel)
  no_other_length := no_place (by decide) (by decide +kernel)
  body_ne_nil := by decide +kernel
  body_no_zero := by decide +kernel
  length_lt := by decide +kernel

def listingResponse : HttpResponse where
  toResponseParts := plainParts appsAnswerText
  code_ge := by decide
  code_le := by decide
  reason_line := by decide
  reason_blank := by decide
  lines := nofun
  one_length := one_place (by decide) (by decide +kernel)
  no_other_length := no_place (by decide) (by decide +kernel)
  body_ne_nil := by decide +kernel
  body_no_zero := by decide +kernel
  length_lt := by decide +kernel

/-- The address of a session. -/
def sessionUri : Element := leaf (ascii "AppURI") (ascii "VNC://10.0.0.5:5901")

def sessionTree : Element :=
  branch (ascii "Envelope") [branch (ascii "Body")
    [branch (ascii "LaunchApplicationResponse") [sessionUri]]]

/-- The answer to a launch. -/
def sessionText : List UInt8 :=
  markup (ascii "Envelope") (markup (ascii "Body") (markup (ascii "LaunchApplicationResponse")
    (markup (ascii "AppURI") (ascii "VNC://10.0.0.5:5901"))))

def sessionResponse : HttpResponse where
  toResponseParts := plainParts sessionText
  code_ge := by decide
  code_le := by decide
  reason_line := by decide
  reason_blank := by decide
  lines := nofun
  one_length := one_place (by decide) (by decide +kernel)
  no_other_length := no_place (by decide) (by decide +kernel)
  body_ne_nil := by decide +kernel
  body_no_zero := by decide +kernel
  length_lt := by decide +kernel

/-- The description, cut in the status line. -/
def descriptionAnswer : Answer200 :=
  ⟨descriptionResponse, rfl, [chunkOf (descriptionResponse.bytes.take 11)],
    chunkOf (descriptionResponse.bytes.drop 11), .closed, [], by decide +kernel⟩

/-- The listing, cut in the body. -/
def listingAnswer : Answer200 :=
  ⟨listingResponse, rfl, [chunkOf (listingResponse.bytes.take 60)],
    chunkOf (listingResponse.bytes.drop 60), .closed, [], by decide +kernel⟩

/-- The address of the session, in one chunk. -/
def sessionAnswer : Answer200 :=
  ⟨sessionResponse, rfl, [], chunkOf sessionResponse.bytes, .closed, [], by decide +kernel⟩

/-- `xmlParseDoc` on what the phone answers. -/
def parsePhone (text : Option (List UInt8)) : Option Element :=
  if text = some sessionText then some sessionTree
  else parseApps text

/-- The description that the phone sends is parsed. -/
theorem described_sample : parsePhone descriptionAnswer.body = some descriptionTree := by
  have hother : descriptionAnswer.body ≠ some sessionText := by decide +kernel
  rw [parsePhone, if_neg hother]
  exact if_pos rfl

/-- The answer to a listing has the listing in it. -/
theorem appListing_sample :
    elementAt appListingPath (parsePhone listingAnswer.body) = some appsListing := by
  have hother : listingAnswer.body ≠ some sessionText := by decide +kernel
  rw [parsePhone, if_neg hother]
  exact appListing_answer

/-- The listing is parsed. -/
theorem lists_sample : parsePhone (some appsText) = some appsTree := by
  have hother : some appsText ≠ some sessionText := by decide +kernel
  rw [parsePhone, if_neg hother]
  exact parseApps_listing

/-- The type of the device comes before the rest. -/
theorem inOrder_sample : InOrder (some descriptionTree) := by
  have hitems : descriptionItems (some descriptionTree) = [.server, .url true (ascii "/c")] := by
    decide +kernel
  rw [InOrder, hitems]
  simp [safeFrom_cons, safeFrom_nil, Item.Storable]

/-- The description has one service. -/
theorem service_sample : services descriptionTree =
    [.mk (ascii "service") [] [sampleType, sampleUrl (ascii "controlURL")]] := by
  rfl

def samplePhone : Phone parsePhone where
  description := descriptionAnswer
  root := descriptionTree
  described := described_sample
  wellFormed := ⟨by decide +kernel, by decide +kernel, by decide +kernel, by decide +kernel⟩
  inOrder := inOrder_sample
  service := .mk (ascii "service") [] [sampleType, sampleUrl (ascii "controlURL")]
  service_mem := service_sample ▸ List.mem_singleton_self _
  service_type := by decide +kernel
  control := sampleUrl (ascii "controlURL")
  control_mem := List.mem_cons_of_mem _ (List.mem_singleton_self _)
  control_name := rfl
  control_ne_nil := by decide
  listing := listingAnswer
  appListing := appsListing
  appListing_at := appListing_sample
  appRoot := appsTree
  lists := lists_sample
  numbered := numbered_apps

/-- What it answers to a launch. -/
def sampleLaunch : LaunchAnswer parsePhone where
  answer := sessionAnswer
  uri := sessionUri
  uri_at := by
    show elementAt appUriPath (parsePhone (some sessionText)) = _
    rw [parsePhone, if_pos rfl]
    rfl
  host := ascii "10.0.0.5"
  port := 5901
  isVncUri := ⟨ascii "5901", by decide +kernel⟩
  fits := by decide

/-- Both threads, with lists for the queues and for the model. -/
abbrev ListsGui : Type :=
  QtThreads.Gui (List ClientSignal) (List QtThreads.WindowCall) (List AppItem)

/-- The threads once `onThreadStart` was called, with the item that is there for a test. -/
def connectedGui : ListsGui := ⟨⟨[testItem]⟩, ⟨true, true, [], []⟩, MirrorLinkClient.init⟩

/-- After the connections nothing waits. -/
theorem idle_connectedGui : Idle QtThreads.Qt.ofLists connectedGui :=
  ⟨rfl, rfl, .idle rfl, .idle rfl⟩

/-- The thread starts, and the window takes the call of `onThreadStart`. -/
theorem run_connectedGui (events : List QtThreads.Event) :
    QtThreads.run QtThreads.Qt.ofLists parse (QtThreads.Gui.init QtThreads.Qt.ofLists)
      (.threadStarts :: .gui .windowTurn :: events) =
    QtThreads.run QtThreads.Qt.ofLists parse connectedGui events := rfl

/-! ## The whole way -/

/-- The list has the phone's applications, the last one first, and a double click on a row has the
client ask for that application, and start the session it is answered with. -/
structure Shows {C W M : Type} (qt : QtThreads.Qt C W M) (p : Phone parse)
    (q : QtThreads.Gui C W M) (apps : List App) : Prop where
  described : List.Forall₂ Describes p.apps.reverse apps
  rows : qt.appListModel.Rows q.window.appListModel (apps.map fun app => appItem (emitAddApp app))
  idle : Idle qt q
  launches : ∀ (row : ℕ) (app : App), apps[row]? = some app →
    (∃ q', QtThreads.step qt parse q (.gui (.doubleClick row 0)) = .ok q' ∧
      qt.clientCalls.Holds q'.manager.toClient [.launch app.appID]) ∧
    ∀ (a : LaunchAnswer parse) (launch : Reply), networkReply a.answer.calls = some launch →
      ∃ c, slotStep parse q.client (.onLaunch app.appID launch) =
        .ok (c, [.vncSessionStart a.host a.port])

/-- A double click on a row of a phone's list. -/
theorem Told.doubleClick {p : Phone parse} {host : List UInt8} {port : UInt16} {g : Gui}
    (h : Told p host port g) (hempty : g.manager.toWindow = []) {row : ℕ} {app : App}
    (happ : (p.apps.map appOf).reverse[row]? = some app) :
    guiStep parse g (.doubleClick row 0) =
      .ok { g with manager := ⟨[.launch app.appID], g.manager.toWindow⟩ } := by
  have hrows : g.window.items = phoneRows p := by
    rw [← h.shown, Gui.shown, hempty, List.map_nil, List.append_nil]
  have hitem : g.window.item row 0 = some (appItem (emitAddApp app)) := by
    rw [MainWindow.item, if_pos rfl, hrows, phoneRows, List.getElem?_map, happ]
    rfl
  have hid : (appItem (emitAddApp app)).data.toUInt32 = app.appID := UInt32.toUInt32_toInt32 _
  refine bind_eq_ok.mpr ⟨⟨[.launch app.appID], g.manager.toWindow⟩, ?_, rfl⟩
  refine bind_eq_ok.mpr ⟨_, deref_eq_ok.mpr hitem, ?_⟩
  rw [hid]
  show Except.ok
    { g.manager with toClient := g.manager.toClient ++ [ClientSignal.launch app.appID] } = _
  rw [h.toClient]
  rfl

/-- What the window shows over Qt, when it has been told of all applications. -/
theorem Told.shows {C W M : Type} {qt : QtThreads.Qt C W M} (hqt : qt.Documented)
    {p : Phone parse} {host : List UInt8} {port : UInt16} {q : QtThreads.Gui C W M} {g : Gui}
    (h : Told p host port g) (hq : Represents qt q g)
    (hpost : LinesFit (ascii "POST") host p.controlPath port) (hempty : g.manager.toWindow = []) :
    Shows qt p q (p.apps.map appOf).reverse where
  described := by
    rw [← List.map_reverse]
    refine forall₂_appOf fun e he => ?_
    rw [List.mem_reverse, Phone.apps, List.mem_filter] at he
    exact p.numbered e he.1 (by simpa using he.2)
  rows := by
    have hrows : g.window.items = phoneRows p := by
      rw [← h.shown, Gui.shown, hempty, List.map_nil, List.append_nil]
    have hmodel := hq.rows
    rwa [hrows] at hmodel
  idle := by
    have hclient := hq.toClient
    have hwindow := hq.toWindow
    rw [h.toClient] at hclient
    rw [hempty] at hwindow
    exact ⟨hq.running, hq.connected, hclient, hwindow⟩
  launches row app happ := by
    constructor
    · obtain ⟨q', hstep, hq'⟩ := (hq.step hqt (.doubleClick row 0)).returns
        (h.doubleClick hempty happ)
      exact ⟨q', hstep, hq'.toClient⟩
    · intro a launch hlaunch
      obtain ⟨s, hserver, hs⟩ := h.server
      rw [hq.client]
      exact onLaunch_phone hserver hs hpost app.appID a hlaunch

/-- The threads take their turns over lists. -/
theorem Requested.shown {p : Phone parse} {host path : List UInt8} {port : UInt16} {g : Gui}
    (h : Requested host path port g) (hhost : host ≠ [])
    (hget : LinesFit (ascii "GET") host path port)
    (hpost : LinesFit (ascii "POST") host p.controlPath port) {create list : Reply}
    (hcreate : networkReply p.description.calls = some create)
    (hlist : networkReply p.listing.calls = some list) {before after : List GuiEvent}
    (launch : Reply) (hbefore : ∀ event ∈ before, IsTurn create list event)
    (hafter : ∀ event ∈ after, IsTurn create list event)
    (hturns : p.apps.length ≤ after.countP isWindowTurn) :
    ∃ g', guiRun parse g (before ++ .clientTurn create list launch :: after) = .ok g' ∧
      Told p host port g' ∧ g'.manager.toWindow = [] := by
  obtain ⟨g₁, hrun₁, h₁⟩ := h.turns hhost hget hpost hcreate hlist hbefore
  have hturn : ∃ g₂, guiStep parse g₁ (.clientTurn create list launch) = .ok g₂ ∧
      Told p host port g₂ := by
    rcases h₁ with h₁ | h₁
    · exact h₁.clientTurn hhost hget hpost hcreate hlist launch
    · obtain ⟨g₂, hstep, h₂, -⟩ := h₁.turn (.inr ⟨launch, rfl⟩)
      exact ⟨g₂, hstep, h₂⟩
  obtain ⟨g₂, hstep, h₂⟩ := hturn
  obtain ⟨g₃, hrun₃, h₃, hlength⟩ := h₂.turns hafter
  have hempty : g₃.manager.toWindow = [] := by
    have hle := h₂.length_toWindow
    apply List.eq_nil_of_length_eq_zero
    omega
  refine ⟨g₃, ?_, h₃, hempty⟩
  rw [guiRun, List.foldlM_append]
  exact bind_eq_ok.mpr ⟨g₁, hrun₁, bind_eq_ok.mpr ⟨g₂, hstep, hrun₃⟩⟩

/-- The start button, where nothing waits. -/
theorem Idle.startButton {C W M : Type} {qt : QtThreads.Qt C W M} (hqt : qt.Documented)
    {q : QtThreads.Gui C W M} (h : Idle qt q) (host path : List UInt8) (port : Int32) :
    ∃ q', QtThreads.step qt parse q (.gui (.startButton host port path)) = .ok q' ∧
      Represents qt q'
        ⟨⟨[]⟩, ⟨[.start host port.toUInt32.toUInt16 path], []⟩, q.client⟩ := by
  refine ⟨_, rfl, ?_⟩
  have hemit : QtThreads.emit qt q.manager (.start host port.toUInt32.toUInt16 path) =
    { q.manager with
      toClient := qt.clientCalls.post q.manager.toClient
        (.start host port.toUInt32.toUInt16 path) } := if_pos h.connected
  show Represents qt { q with
    window := ⟨qt.appListModel.clear q.window.appListModel⟩
    manager := QtThreads.emit qt q.manager (.start host port.toUInt32.toUInt16 path) } _
  rw [hemit]
  exact ⟨h.running, h.connected, h.toClient.post hqt.clientCalls _, h.toWindow,
    Table.rows_clear hqt.appListModel _, rfl⟩

/-- **From the start button to a session.**  Qt does what is documented, the threads are connected
and nothing waits between them, and the client has no server, when the start button is pressed for
a phone with a host, and the lines of the requests fit.  Then however the two threads take their
turns, and in whatever chunks the answers arrive, nothing goes wrong, and when the client has had a
turn, and the window one for each application after it, the list shows the phone's applications and
starts the sessions that the phone answers with. -/
theorem applications_reach_window {C W M : Type} {qt : QtThreads.Qt C W M} (hqt : qt.Documented)
    (p : Phone parse) {q : QtThreads.Gui C W M} (hidle : Idle qt q)
    (hserver : q.client.server = none) {host path : List UInt8} (hhost : host ≠ []) {port : Int32}
    (hget : LinesFit (ascii "GET") host path port.toUInt32.toUInt16)
    (hpost : LinesFit (ascii "POST") host p.controlPath port.toUInt32.toUInt16)
    {create list : Reply} (hcreate : networkReply p.description.calls = some create)
    (hlist : networkReply p.listing.calls = some list) {before after : List GuiEvent}
    (launch : Reply) (hbefore : ∀ event ∈ before, IsTurn create list event)
    (hafter : ∀ event ∈ after, IsTurn create list event)
    (hturns : p.apps.length ≤ after.countP isWindowTurn) :
    ∃ q' apps, QtThreads.run qt parse q ((.startButton host port path :: (before ++
      .clientTurn create list launch :: after)).map .gui) = .ok q' ∧ Shows qt p q' apps := by
  obtain ⟨q₁, hstart, hq₁⟩ := hidle.startButton hqt host path port
  have hrequested : Requested host path port.toUInt32.toUInt16
      ⟨⟨[]⟩, ⟨[.start host port.toUInt32.toUInt16 path], []⟩, q.client⟩ := ⟨rfl, rfl, hserver⟩
  obtain ⟨g, hrun, htold, hempty⟩ := hrequested.shown hhost hget hpost hcreate hlist launch hbefore
    hafter hturns
  obtain ⟨q', hrun', hq'⟩ := (run_represents hq₁ hqt _).returns hrun
  exact ⟨q', _, bind_eq_ok.mpr ⟨q₁, hstart, hrun'⟩, htold.shows hqt hq' hpost hempty⟩

/-- From the construction of the window on: the thread starts and is connected, then the client and
the window have their turns, and the application in the first row is launched. -/
theorem applications_reach_window_of_sample : ∃ create list launch q' apps app c,
    QtThreads.run QtThreads.Qt.ofLists parsePhone (QtThreads.Gui.init QtThreads.Qt.ofLists)
      [.threadStarts, .gui .windowTurn,
        .gui (.startButton (ascii "192.168.42.129") 8080 (ascii "/d.xml")), .gui .windowTurn,
        .gui (.clientTurn create list .refused), .gui .windowTurn, .gui .windowTurn] = .ok q' ∧
    Shows QtThreads.Qt.ofLists samplePhone q' apps ∧ Describes radioApp app ∧
    slotStep parsePhone q'.client (.onLaunch app.appID launch) =
      .ok (c, [.vncSessionStart (ascii "10.0.0.5") 5901]) := by
  obtain ⟨_, hcreate⟩ := descriptionAnswer.networkReply_calls
  obtain ⟨_, hlist⟩ := listingAnswer.networkReply_calls
  obtain ⟨_, hlaunch⟩ := sampleLaunch.answer.networkReply_calls
  have hget : LinesFit (ascii "GET") (ascii "192.168.42.129") (ascii "/d.xml")
      (8080 : Int32).toUInt32.toUInt16 := ⟨by decide, by decide +kernel⟩
  have hpost : LinesFit (ascii "POST") (ascii "192.168.42.129") samplePhone.controlPath
      (8080 : Int32).toUInt32.toUInt16 := ⟨by decide, by decide +kernel⟩
  have hbefore : ∀ {create list}, ∀ event ∈ [GuiEvent.windowTurn], IsTurn create list event :=
    fun event hevent => .inl (List.mem_singleton.mp hevent)
  have hafter : ∀ {create list}, ∀ event ∈ [GuiEvent.windowTurn, .windowTurn],
      IsTurn create list event := by
    intro create list event hevent
    simp only [List.mem_cons, List.not_mem_nil, or_false, or_self] at hevent
    exact .inl hevent
  obtain ⟨q', apps, hrun, hshows⟩ := applications_reach_window QtThreads.Qt.documented_ofLists
    samplePhone idle_connectedGui rfl (by decide) hget hpost hcreate hlist .refused hbefore hafter
    (by decide +kernel)
  obtain ⟨app, rest, hdescribes, -, rfl⟩ := List.forall₂_cons_left_iff.mp hshows.described
  obtain ⟨c, hsession⟩ := (hshows.launches 0 app rfl).2 sampleLaunch _ hlaunch
  exact ⟨_, _, _, q', _, app, c, (run_connectedGui _).trans hrun, hshows, hdescribes, hsession⟩

end MirrorLink.Analysis
