import MirrorLink.Analysis.Launch
import MirrorLink.Analysis.Listing
import MirrorLink.Analysis.SoapArguments
import MirrorLink.Interface.ApplicationIds

/-!
# The id of an application, from a listing to its launch

Each conversion on the way keeps the 32 bits: `%x` stores them in an `int`, the row of the list
has the `int`, a double click makes a `quint32` of it, and `%08x` prints that.
-/

set_option autoImplicit false

namespace MirrorLink.Analysis

open MirrorLink.Library MirrorLink.Program

variable {parse : Option (List UInt8) → Option Element}

/-! ## From the listing to the list -/

/-- What `%x` reads of the last `appID`. -/
theorem appID_appOf_of_isHex {e : Element} {text : List UInt8} {n : ℕ}
    (hid : lastText (ascii "appID") e.children = some text) (hhex : IsHex text n)
    (hn : n < 2 ^ 32) : (appOf e).appID = UInt32.ofNat n := by
  rw [← lastWrite_textWrite] at hid
  rw [appID_appOf, lastWrite_bind_some hid (scanHex_of_isHex hhex hn), Option.getD_some]

/-- `onStart` emits what has just been fetched first. -/
theorem emitted_onStart {c c' : MirrorLinkClient} {ip path : List UInt8} {port : UInt16}
    {create list : Reply} {emitted : List App}
    (h : onStart parse c ip port path create list = .ok (c', emitted))
    (hserver : c'.server ≠ none) :
    ∃ older, emitted = (fetched parse list).reverse ++ older := by
  obtain ⟨server, -, h⟩ := bind_eq_ok.mp h
  cases server with
  | none =>
    cases h
    exact absurd rfl hserver
  | some server =>
    obtain ⟨⟨ret, server', apps'⟩, hget, h⟩ := bind_eq_ok.mp h
    obtain ⟨⟨emitted', apps''⟩, hemit, h⟩ := bind_eq_ok.mp h
    cases h
    obtain ⟨as, hlinked⟩ := getApplicationList_spec hget
    obtain ⟨turns, hturns⟩ : ∃ turns, apps'.fresh + 1 = as.length + turns := by
      have hle : as.length ≤ apps'.fresh := length_le_fresh hlinked
      exact ⟨apps'.fresh + 1 - as.length, by omega⟩
    rw [hturns, emitApps_chain turns hlinked.chain hlinked.nodup, hlinked.values] at hemit
    cases hrest : emitApps turns server.appList (freeAll apps' as) with
    | error fault =>
      rw [hrest] at hemit
      cases hemit
    | ok r =>
      rw [hrest] at hemit
      cases hemit
      exact ⟨r.1, rfl⟩

/-- An app of the listing is among those that are fetched. -/
theorem mem_fetched {list : Reply} {root e : Element} (hlisting : listing parse list = some root)
    (he : e ∈ root.children) (hname : e.name = ascii "app") : appOf e ∈ fetched parse list := by
  have hmem : e ∈ root.children.filter fun e => e.name = ascii "app" :=
    List.mem_filter.mpr ⟨he, decide_eq_true hname⟩
  rw [fetched, hlisting]
  exact List.mem_map_of_mem hmem

/-! ## The list -/

/-- What an event adds to the list, or that it is the start. -/
theorem shown_guiStep {g g' : Gui} {event : GuiEvent} (hstart : event.isStart = false)
    (h : guiStep parse g event = .ok g') : g.shown <+: g'.shown := by
  cases event with
  | startButton host port path => cases hstart
  | stopButton =>
    cases h
    exact List.prefix_refl _
  | doubleClick row column =>
    obtain ⟨manager, hmanager, h⟩ := bind_eq_ok.mp h
    obtain ⟨item, -, hmanager⟩ := bind_eq_ok.mp hmanager
    cases hmanager
    cases h
    exact List.prefix_refl _
  | windowTurn =>
    cases h
    unfold takeAddApp
    split
    next => exact List.prefix_refl _
    next app rest htake =>
      unfold Gui.shown
      rw [htake, List.map_cons, onAddApp]
      simp
  | clientTurn create list launch =>
    replace h : takeSignal parse create list launch g = .ok g' := h
    unfold takeSignal at h
    split at h
    next =>
      cases h
      exact List.prefix_refl _
    next ip port path rest hsignal =>
      obtain ⟨⟨c, emitted⟩, -, h⟩ := bind_eq_ok.mp h
      cases h
      unfold Gui.shown
      rw [List.map_append, ← List.append_assoc]
      exact List.prefix_append _ _
    next =>
      cases h
      exact List.prefix_refl _
    next appid rest hsignal =>
      obtain ⟨⟨c, started⟩, -, h⟩ := bind_eq_ok.mp h
      cases h
      exact List.prefix_refl _

/-- **The list of a run** keeps what it shows, in its place, until it is started again. -/
theorem shown_guiRun {g g' : Gui} {events : List GuiEvent}
    (hstart : ∀ event ∈ events, event.isStart = false) (h : guiRun parse g events = .ok g') :
    g.shown <+: g'.shown := by
  unfold guiRun at h
  induction events generalizing g with
  | nil =>
    cases h
    exact List.prefix_refl _
  | cons event events ih =>
    rw [List.foldlM_cons] at h
    obtain ⟨t, ht, hrest⟩ := bind_eq_ok.mp h
    have hstep := shown_guiStep (hstart event List.mem_cons_self) ht
    exact hstep.trans (ih (fun event hevent => hstart event (List.mem_cons_of_mem _ hevent)) hrest)

/-! ## From the list to the launch -/

def idName : List Char := "AppID".toList

/-- The name of an id opens and closes an element. -/
theorem isElementName_id : IsElementName idName := by
  decide

/-- It is printable. -/
theorem printable_id : IsPrintable idName := by
  decide

/-- The tag in front of the number, with the sign that it is hexadecimal. -/
theorem utf8_idTag : utf8 (tagText idName) ++ [48, 120] = ascii "<AppID>0x" := by
  have htag : utf8 (tagText idName) = ascii "<AppID>" := by
    apply utf8_eq_ascii _ printable_id.tagText
    unfold idName
    repeat rewrite [String.toList_ofList]
    rfl
  rw [htag]
  rfl

/-- The tags between the numbers. -/
theorem utf8_idEnd : utf8 (tagText ('/' :: idName)) ++ utf8 (tagText pidName) =
    ascii "</AppID><ProfileID>" := by
  rw [← utf8_append]
  apply utf8_eq_ascii _ ((printable_end printable_id).tagText.append printable_pid.tagText)
  unfold idName pidName
  repeat rewrite [String.toList_ofList]
  rfl

/-- The arguments of a launch, as two elements with a number each. -/
theorem launchArgs_eq (appid pid : UInt32) :
    launchArgs appid pid = utf8 (elementText idName (asciiText (48 :: 120 :: hex08 appid)) ++
      elementText pidName (asciiText (decimalInt pid))) := by
  rw [launchArgs, elementText, elementText, utf8_append, utf8_append, utf8_append, utf8_append,
    utf8_append, utf8_numeral (isNumeral_of_isHex (isHex_hex08 appid)),
    utf8_numeral (isNumeral_decimalInt pid), utf8_pidEnd, ← utf8_idTag,
    ← utf8_idEnd]
  simp only [List.append_assoc, List.cons_append, List.nil_append]

/-- **The request of a launch** has the id that it is given. -/
theorem requestsId_self (appid : UInt32) : RequestsId appid appid.toNat := by
  intro server hpath
  have hpasted := pastedReadsBack_of_numerals soapAction_launchApplication isElementName_id
    isElementName_pid printable_id.plain printable_pid.plain
    (isNumeral_of_isHex (isHex_hex08 appid)) (isNumeral_decimalInt 0)
  rw [← launchArgs_eq] at hpasted
  refine ⟨48 :: 120 :: hex08 appid, isHex_hex08 appid, ?_⟩
  exact (readsBack_iff soapAction_launchApplication (by decide) 100).mpr
    ⟨length_launchArgs appid 0, hpath, hpasted⟩

/-- A double click on a row sends the id of its item, as an unsigned number. -/
theorem launchesId_of_item {g : Gui} {row : ℕ} {item : AppItem}
    (hitem : g.window.items[row]? = some item) :
    LaunchesId parse g row item.data.toUInt32.toNat := by
  refine ⟨item.data.toUInt32, { g with manager := launchApp g.manager item.data.toUInt32 }, ?_, rfl,
    requestsId_self _⟩
  refine bind_eq_ok.mpr ⟨launchApp g.manager item.data.toUInt32, ?_, rfl⟩
  exact bind_eq_ok.mpr ⟨item, deref_eq_ok.mpr hitem, rfl⟩

/-- What the client does with the signal. -/
theorem onLaunch_eq {c : MirrorLinkClient} {server : RemoteServer}
    (hserver : c.server = some server) (appid : UInt32) (launch : Reply) :
    onLaunch parse c appid launch =
      (launchRequest server appid 0 >>=
        sendRequest server (launchApplicationParse parse server) server launch) >>= fun r =>
          pure ({ c with server := some r.2 },
            if r.1 = 0 then some (r.2.vncIp, r.2.vncPort) else none) := by
  rw [onLaunch, hserver]
  show (remoteServerLaunchApplication parse server appid 0 launch >>= _) = _
  rw [remoteServerLaunchApplication_eq]

/-! ## The whole way -/

/-- **An id survives.**  The application that a listing gives an id in any spelling is shown in
the list, in a place that it keeps until the list is started again, and whenever it is there a
double click on its row requests a launch with this id. -/
theorem application_id_round_trip (parse : Option (List UInt8) → Option Element) {g g₁ : Gui}
    {ip path : List UInt8} {port : UInt16} {rest : List ClientSignal} {create list launch : Reply}
    {root e : Element} {text : List UInt8} {n : ℕ}
    (hsignal : g.manager.toClient = .start ip port path :: rest)
    (hturn : guiStep parse g (.clientTurn create list launch) = .ok g₁)
    (hserver : g₁.client.server ≠ none) (hlisting : listing parse list = some root)
    (he : e ∈ root.children) (hname : e.name = ascii "app")
    (hid : lastText (ascii "appID") e.children = some text) (hhex : IsHex text n)
    (hn : n < 2 ^ 32) :
    ∃ (k : ℕ) (item : AppItem), g₁.shown[k]? = some item ∧
      item.text = lastText (ascii "name") e.children ∧
      item.toolTip = lastText (ascii "description") e.children ∧
      ∀ events g₂, guiRun parse g₁ events = .ok g₂ →
        ((∀ event ∈ events, event.isStart = false) → g₂.shown[k]? = some item) ∧
        ∀ row : ℕ, g₂.window.items[row]? = some item → LaunchesId parse g₂ row n := by
  have hturn' : takeSignal parse create list launch g = .ok g₁ := hturn
  rw [takeSignal, hsignal] at hturn'
  obtain ⟨⟨c, emitted⟩, hstart, hg₁⟩ := bind_eq_ok.mp hturn'
  cases hg₁
  obtain ⟨older, rfl⟩ := emitted_onStart hstart hserver
  have hmem : appItem (emitAddApp (appOf e)) ∈
      Gui.shown ⟨g.window, ⟨rest, g.manager.toWindow ++
        ((fetched parse list).reverse ++ older).map emitAddApp⟩, c⟩ := by
    refine List.mem_append_right _ (List.mem_map_of_mem (List.mem_append_right _ ?_))
    refine List.mem_map_of_mem (List.mem_append_left _ (List.mem_reverse.mpr ?_))
    exact mem_fetched hlisting he hname
  obtain ⟨k, hk⟩ := List.mem_iff_getElem?.mp hmem
  have hdata : (appItem (emitAddApp (appOf e))).data.toUInt32.toNat = n := by
    show (appOf e).appID.toInt32.toUInt32.toNat = n
    rw [UInt32.toUInt32_toInt32, appID_appOf_of_isHex hid hhex hn, UInt32.toNat_ofNat_of_lt' hn]
  refine ⟨k, _, hk, name_appOf e, description_appOf e, ?_⟩
  intro events g₂ hrun
  constructor
  · intro hevents
    obtain ⟨later, hlater⟩ := shown_guiRun hevents hrun
    obtain ⟨hlt, -⟩ := List.getElem?_eq_some_iff.mp hk
    rw [← hlater, List.getElem?_append_left hlt]
    exact hk
  · intro row hrow
    have hlaunch : LaunchesId parse g₂ row _ := launchesId_of_item hrow
    rwa [hdata] at hlaunch

/-- An id whose top bit is set. -/
def largeId : List UInt8 := ascii "0xFFFFFFFE"

/-- The element of an application with this id. -/
def largeApp : Element := .mk (ascii "app") largeId [.mk (ascii "appID") largeId []]

/-- An answer that lists it. -/
def largeListText : List UInt8 := ascii "<l><app><appID>" ++ largeId ++ ascii "</appID></app></l>"

def largeAnswerText : List UInt8 :=
  ascii "<Envelope><Body><GetApplicationListResponse><AppListing>" ++
    ascii "&lt;l&gt;&lt;app&gt;&lt;appID&gt;" ++ largeId ++
    ascii "&lt;/appID&gt;&lt;/app&gt;&lt;/l&gt;" ++
    ascii "</AppListing></GetApplicationListResponse></Body></Envelope>"

def largeAnswerTree : Element :=
  .mk (ascii "Envelope") largeListText [.mk (ascii "Body") largeListText [
    .mk (ascii "GetApplicationListResponse") largeListText [
      .mk (ascii "AppListing") largeListText []]]]

/-- `xmlParseDoc` on the description and on these two texts. -/
def parseLarge (text : Option (List UInt8)) : Option Element :=
  if text = some descriptionText then some descriptionTree
  else if text = some largeAnswerText then some largeAnswerTree
  else if text = some largeListText then some (.mk (ascii "l") largeId [largeApp])
  else none

/-- The list has just been started. -/
def startedGui : Gui :=
  ⟨⟨[]⟩, ⟨[.start (ascii "192.168.42.129") 8080 (ascii "/d.xml")], []⟩, MirrorLinkClient.init⟩

def largeAnswer : Reply := .answered (some ⟨⟨200, some largeAnswerText⟩, by decide⟩)

/-- The answer with the description has not failed. -/
theorem described_ne_zero : (⟨200, some descriptionText⟩ : HttpRsp).errcode ≠ 0 := by decide

def describedTurn : GuiEvent :=
  .clientTurn (.answered (some ⟨⟨200, some descriptionText⟩, described_ne_zero⟩)) largeAnswer
    .refused

/-- An app whose id has its top bit set is shown, and launched by it. -/
theorem application_id_round_trip_of_large :
    ∃ g₁, guiStep parseLarge startedGui describedTurn = .ok g₁ ∧
      ∃ (k : ℕ) (item : AppItem), g₁.shown[k]? = some item ∧
        item.text = lastText (ascii "name") largeApp.children ∧
        item.toolTip = lastText (ascii "description") largeApp.children ∧
        ∀ events g₂, guiRun parseLarge g₁ events = .ok g₂ →
          ((∀ event ∈ events, event.isStart = false) → g₂.shown[k]? = some item) ∧
          ∀ row : ℕ, g₂.window.items[row]? = some item →
            LaunchesId parseLarge g₂ row 4294967294 := by
  have hrun : ((guiStep parseLarge startedGui describedTurn).map
      fun g => g.client.server.isSome) = .ok true := by decide +kernel
  have hlisting : listing parseLarge largeAnswer =
      some (.mk (ascii "l") largeId [largeApp]) := by
    have hdescription : some largeAnswerText ≠ some descriptionText := by decide +kernel
    have hlist : some largeListText ≠ some descriptionText := by decide +kernel
    have hother : some largeListText ≠ some largeAnswerText := by decide +kernel
    have hanswer : parseLarge (some largeAnswerText) = some largeAnswerTree := by
      rw [parseLarge, if_neg hdescription, if_pos rfl]
    have hdoc : parseLarge (some largeListText) =
        some (.mk (ascii "l") largeId [largeApp]) := by
      rw [parseLarge, if_neg hlist, if_neg hother, if_pos rfl]
    have hat : elementAt appListingPath (some largeAnswerTree) =
        some (.mk (ascii "AppListing") largeListText []) := rfl
    rw [largeAnswer, listing, if_pos rfl, hanswer, hat, Option.bind_some]
    exact hdoc
  have hhex : IsHex largeId 4294967294 :=
    ⟨ascii "FFFFFFFE", .inr (.inl rfl), by decide, by decide +kernel, rfl⟩
  cases hturn : guiStep parseLarge startedGui describedTurn with
  | error fault =>
    rw [hturn] at hrun
    cases hrun
  | ok g₁ =>
    rw [hturn] at hrun
    have hsome : g₁.client.server.isSome = true := Except.ok.inj hrun
    have hserver : g₁.client.server ≠ none := by
      intro hnone
      rw [hnone] at hsome
      cases hsome
    exact ⟨g₁, rfl, application_id_round_trip parseLarge rfl hturn hserver hlisting
      List.mem_cons_self rfl rfl hhex (by omega)⟩

end MirrorLink.Analysis
