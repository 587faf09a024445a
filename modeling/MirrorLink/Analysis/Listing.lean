import MirrorLink.Analysis.AppList
import MirrorLink.Interface.AppListing
import MirrorLink.Library.LastWrite

/-!
# A listing is read completely

The loop over the listed elements links one node for each application in front of the list, and
what is linked already stays as it is.  Each field of a node is written by the children of one
name, so that the last of them counts (`describes_appOf`).
-/

set_option autoImplicit false

namespace MirrorLink.Analysis

open MirrorLink.Library MirrorLink.Program

/-! ## Elements of a name -/

/-- What an element of a name writes. -/
def textWrite (name : List UInt8) (e : Element) : Option (List UInt8) :=
  if e.name = name then some e.content else none

/-- The text that stays is that of the last element of the name. -/
theorem lastWrite_textWrite (name : List UInt8) (es : List Element) :
    lastWrite (textWrite name) es = lastText name es := by
  have hsome : (fun e : Element => some e.content) = some ∘ Element.content := rfl
  unfold textWrite
  rw [lastWrite_ite, hsome, List.filterMap_eq_map, List.getLast?_map, lastText]

/-- What a list of icons writes. -/
def iconWrite (e : Element) : Option (List UInt8) :=
  if e.name = ascii "iconList" then lastText (ascii "url") (firstIcon e) else none

/-- The icon that stays is that of the last list of icons. -/
theorem lastWrite_iconWrite (es : List Element) : lastWrite iconWrite es = iconAddress es :=
  lastWrite_ite _ _ es

/-! ## The children of an application -/

/-- The loop over the children of an icon writes its address and nothing else. -/
theorem foldl_iconParam (es : List Element) (app : App) :
    es.foldl iconParam app =
      { app with iconPath := (lastText (ascii "url") es).or app.iconPath } := by
  have hicon : (es.foldl iconParam app).iconPath =
      (lastWrite (textWrite (ascii "url")) es).or app.iconPath := by
    refine foldl_lastWrite_or App.iconPath iconParam _ ?_ es app
    intro app e
    unfold iconParam textWrite
    split <;> rfl
  have hframe : es.foldl iconParam app =
      { app with iconPath := (es.foldl iconParam app).iconPath } := by
    clear hicon
    induction es generalizing app with
    | nil => rfl
    | cons e es ih =>
      rw [List.foldl_cons, ih]
      unfold iconParam
      split <;> rfl
  rw [hframe, hicon, lastWrite_textWrite]

/-- One turn of the loop over the children of an application, field by field. -/
theorem appParam_eq (app : App) (param : Element) :
    appParam app param =
      { appID := ((textWrite (ascii "appID") param).bind scanHex).getD app.appID
        name := (textWrite (ascii "name") param).or app.name
        description := (textWrite (ascii "description") param).or app.description
        iconPath := (iconWrite param).or app.iconPath } := by
  unfold appParam
  simp only [foldl_iconParam]
  unfold textWrite iconWrite firstIcon
  split_ifs <;> rfl

/-- The id is that of the last `appID` that can be read. -/
theorem appID_appOf (e : Element) : (appOf e).appID =
    (lastWrite (fun param => (textWrite (ascii "appID") param).bind scanHex) e.children).getD 0 :=
  foldl_lastWrite App.appID appParam _ (fun app param => by rw [appParam_eq]) e.children App.zero

/-- The name is the last one. -/
theorem name_appOf (e : Element) : (appOf e).name = lastText (ascii "name") e.children := by
  rw [← lastWrite_textWrite]
  refine (foldl_lastWrite_or App.name appParam _ ?_ e.children App.zero).trans Option.or_none
  intro app param
  rw [appParam_eq]

/-- The description is the last one. -/
theorem description_appOf (e : Element) :
    (appOf e).description = lastText (ascii "description") e.children := by
  rw [← lastWrite_textWrite]
  refine (foldl_lastWrite_or App.description appParam _ ?_ e.children App.zero).trans
    Option.or_none
  intro app param
  rw [appParam_eq]

/-- **The loop over the children of an application** makes of it what they say. -/
theorem describes_appOf {e : Element} (h : NumberedApp e) : Describes e (appOf e) := by
  have hread : ∀ param ∈ e.children, ∀ text, textWrite (ascii "appID") param = some text →
      ∃ n < 2 ^ 32, IsHex text n := by
    intro param hparam text htext
    unfold textWrite at htext
    split_ifs at htext with hname
    cases htext
    exact h param hparam hname
  have hid : (appOf e).appID =
      ((lastText (ascii "appID") e.children).bind scanHex).getD 0 := by
    rw [appID_appOf, lastWrite_bind, lastWrite_textWrite]
    intro param hparam text htext
    obtain ⟨n, hn, hhex⟩ := hread param hparam text htext
    rw [scanHex_of_isHex hhex hn]
    rfl
  refine ⟨?_, ?_, ?_, ?_, ?_⟩
  · intro text htext
    obtain ⟨param, hparam, hwrites⟩ := mem_of_lastWrite
      ((lastWrite_textWrite (ascii "appID") e.children).trans htext)
    obtain ⟨n, hn, hhex⟩ := hread param hparam text hwrites
    rw [hid, htext, Option.bind_some, scanHex_of_isHex hhex hn, Option.getD_some,
      UInt32.toNat_ofNat_of_lt' hn]
    exact hhex
  · intro hnone
    rw [hid, hnone]
    rfl
  · exact name_appOf e
  · exact description_appOf e
  · rw [← lastWrite_iconWrite]
    refine (foldl_lastWrite_or App.iconPath appParam _ ?_ e.children App.zero).trans
      Option.or_none
    intro app param
    rw [appParam_eq]

/-! ## The list -/

/-- What has been linked in front of a list makes a list with it. -/
theorem LinkedInFront.isList {s s' : RemoteServer × AppHeap} {added old : List App} {as : List ℕ}
    (h : LinkedInFront s added s' as) (hold : IsList s.2.nodes s.1.appList old) :
    IsList s'.2.nodes s'.1.appList (added.reverse ++ old) := by
  have hkept : IsList s'.2.nodes s.1.appList old := by
    refine hold.mono fun a ha => h.old a ?_
    by_contra hge
    exact ha (s.2.unused a (Nat.le_of_not_lt hge))
  have hlist := IsList.append h.chain hkept
  rwa [h.values] at hlist

/-- Nothing but the pointer to the list changes. -/
theorem foldl_addApp_frame (es : List Element) (s : RemoteServer × AppHeap) :
    (es.foldl addApp s).1 = { s.1 with appList := (es.foldl addApp s).1.appList } := by
  induction es generalizing s with
  | nil => rfl
  | cons e es ih =>
    rw [List.foldl_cons, ih]
    unfold addApp
    split <;> rfl

/-- The elements that are applications are described by what the loop makes of them. -/
theorem forall₂_appOf {es : List Element} (h : ∀ e ∈ es, NumberedApp e) :
    List.Forall₂ Describes es (es.map appOf) := by
  rw [List.forall₂_map_right_iff, List.forall₂_same]
  exact fun e he => describes_appOf (h e he)

/-! ## A listing of two applications -/

/-- An element with a text and no children. -/
def leaf (name text : List UInt8) : Element := .mk name text []

/-- An element with these children, of which its text is put together. -/
def branch (name : List UInt8) (children : List Element) : Element :=
  .mk name (children.flatMap Element.content) children

/-- An element as it is written, with this inside. -/
def markup (name inside : List UInt8) : List UInt8 :=
  ascii "<" ++ name ++ ascii ">" ++ inside ++ ascii "</" ++ name ++ ascii ">"

/-- A text as it is markup in an element. -/
def escaped (text : List UInt8) : List UInt8 :=
  text.flatMap fun b => if b = 60 then ascii "&lt;" else if b = 62 then ascii "&gt;" else [b]

/-- An application with two names and an icon. -/
def mapsApp : Element :=
  branch (ascii "app") [leaf (ascii "name") (ascii "Map"),
    leaf (ascii "appID") (ascii "0x8000000a"), leaf (ascii "name") (ascii "Maps"),
    branch (ascii "iconList") [branch (ascii "icon") [leaf (ascii "url") (ascii "/m.png")]]]

/-- An application with a description only. -/
def radioApp : Element :=
  branch (ascii "app") [leaf (ascii "description") (ascii "Radio"),
    leaf (ascii "appID") (ascii "2")]

/-- Between the applications there is something else. -/
def appsTree : Element :=
  branch (ascii "appList") [mapsApp, leaf (ascii "note") (ascii "new"), radioApp]

def appsText : List UInt8 :=
  markup (ascii "appList")
    (markup (ascii "app")
        (markup (ascii "name") (ascii "Map") ++ markup (ascii "appID") (ascii "0x8000000a") ++
          markup (ascii "name") (ascii "Maps") ++ markup (ascii "iconList")
            (markup (ascii "icon") (markup (ascii "url") (ascii "/m.png")))) ++
      markup (ascii "note") (ascii "new") ++
      markup (ascii "app")
        (markup (ascii "description") (ascii "Radio") ++ markup (ascii "appID") (ascii "2")))

/-- The element that has the listing for its text. -/
def appsListing : Element := leaf (ascii "AppListing") appsText

def appsAnswerTree : Element :=
  branch (ascii "Envelope") [branch (ascii "Body")
    [branch (ascii "GetApplicationListResponse") [appsListing]]]

def appsAnswerText : List UInt8 :=
  markup (ascii "Envelope") (markup (ascii "Body") (markup (ascii "GetApplicationListResponse")
    (markup (ascii "AppListing") (escaped appsText))))

/-- `xmlParseDoc` on a description, on the answer and on the listing in it. -/
def parseApps (text : Option (List UInt8)) : Option Element :=
  if text = some descriptionText then some descriptionTree
  else if text = some appsAnswerText then some appsAnswerTree
  else if text = some appsText then some appsTree
  else none

/-- The answer is parsed as the answer. -/
theorem parseApps_answer : parseApps (some appsAnswerText) = some appsAnswerTree := by
  have hdescription : some appsAnswerText ≠ some descriptionText := by decide +kernel
  rw [parseApps, if_neg hdescription, if_pos rfl]

/-- The listing in it is parsed as the listing. -/
theorem parseApps_listing : parseApps (some appsText) = some appsTree := by
  have hdescription : some appsText ≠ some descriptionText := by decide +kernel
  have hanswer : some appsText ≠ some appsAnswerText := by decide +kernel
  rw [parseApps, if_neg hdescription, if_neg hanswer, if_pos rfl]

/-- The listing is found in the answer. -/
theorem appListing_answer :
    elementAt appListingPath (parseApps (some appsAnswerText)) = some appsListing := by
  rw [parseApps_answer]
  rfl

/-- An application with one `appID` that is a number. -/
theorem numberedApp_of_one {e param : Element} {n : ℕ}
    (hone : (e.children.filter fun child => child.name = ascii "appID") = [param])
    (hn : n < 2 ^ 32) (hhex : IsHex param.content n) : NumberedApp e := by
  intro child hchild hname
  have hmem : child ∈ e.children.filter fun child => child.name = ascii "appID" :=
    List.mem_filter.mpr ⟨hchild, decide_eq_true hname⟩
  rw [hone, List.mem_singleton] at hmem
  rw [hmem]
  exact ⟨n, hn, hhex⟩

/-- The numbers of both are read. -/
theorem numbered_apps (e : Element) (he : e ∈ appsTree.children) (happ : e.name = ascii "app") :
    NumberedApp e := by
  have hmaps : NumberedApp mapsApp := numberedApp_of_one (n := 0x8000000a)
    rfl (by omega)
    ⟨ascii "8000000a", .inr (.inl rfl), by decide, by decide +kernel, rfl⟩
  have hradio : NumberedApp radioApp := numberedApp_of_one (n := 2)
    rfl (by omega)
    ⟨ascii "2", .inl rfl, by decide, by decide +kernel, rfl⟩
  rcases List.mem_cons.mp he with rfl | he
  · exact hmaps
  · rcases List.mem_cons.mp he with rfl | he
    · exact absurd happ (by decide)
    · rw [List.mem_singleton.mp he]
      exact hradio

/-- The server and the list with one application from before. -/
def oldListing : RemoteServer × AppHeap :=
  addApp (RemoteServer.zero (ascii "10.0.0.5") 80, AppHeap.empty) radioApp

/-- The list had an app before. -/
theorem isList_oldListing :
    IsList oldListing.2.nodes oldListing.1.appList [appOf radioApp] :=
  ⟨[0], .cons rfl (.nil none), rfl⟩

/-! ## The whole listing -/

/-- **A listing is read completely.**  Its applications stand in front of the list, the last
one first, and nothing else has changed. -/
theorem listing_complete (parse : Option (List UInt8) → Option Element) (server : RemoteServer)
    (apps : AppHeap) (content : Option (List UInt8)) (old : List App) {appListing root : Element}
    (hold : IsList apps.nodes server.appList old)
    (hat : elementAt appListingPath (parse content) = some appListing)
    (hdoc : parse (some appListing.content) = some root)
    (hnumbers : ∀ e ∈ root.children, e.name = ascii "app" → NumberedApp e) :
    ∃ server' apps' added,
      getApplicationListParse parse (server, apps) content = .ok (0, server', apps') ∧
      IsList apps'.nodes server'.appList (added ++ old) ∧
      List.Forall₂ Describes (root.children.filter fun e => e.name = ascii "app").reverse added ∧
      server' = { server with appList := server'.appList } := by
  have hdescend : descend appListingPath (parse content) = .ok (some appListing) :=
    (descend_eq_some_iff _ _ _ _).mpr hat
  obtain ⟨as, hlinked⟩ := addApps_spec root.children (server, apps)
  have hrun : getApplicationListParse parse (server, apps) content =
      .ok (0, root.children.foldl addApp (server, apps)) := by
    refine bind_eq_ok.mpr ⟨some appListing, hdescend, ?_⟩
    show Except.ok (0, (elementChildren (parse (some appListing.content))).foldl _ _) = _
    rw [hdoc]
    rfl
  refine ⟨_, _, _, hrun, hlinked.isList hold, ?_, foldl_addApp_frame _ _⟩
  rw [← List.map_reverse]
  refine forall₂_appOf fun e he => ?_
  rw [List.mem_reverse, List.mem_filter] at he
  exact hnumbers e he.1 (by simpa using he.2)

/-- Two apps with another element between them, a name given twice and an icon, before an old
list. -/
theorem listing_complete_of_apps :
    ∃ server' apps' added,
      getApplicationListParse parseApps oldListing (some appsAnswerText) =
        .ok (0, server', apps') ∧
      IsList apps'.nodes server'.appList (added ++ [appOf radioApp]) ∧
      List.Forall₂ Describes [radioApp, mapsApp] added ∧
      server' = { oldListing.1 with appList := server'.appList } :=
  listing_complete parseApps oldListing.1 oldListing.2 _ _ isList_oldListing appListing_answer
    parseApps_listing numbered_apps

end MirrorLink.Analysis
