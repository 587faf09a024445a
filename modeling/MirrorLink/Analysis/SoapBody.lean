import MirrorLink.Interface.SoapBody
import MirrorLink.Library.XmlReading
import MirrorLink.Analysis.Actions

/-!
# Reading the envelope of a request

The declaration and the tags of the envelope, up to the element of the action, are read as
they are, and so are the closing tags; what is in between decides what the document comes to.
-/

set_option autoImplicit false

namespace MirrorLink.Analysis

open MirrorLink.Library MirrorLink.Program

/-! ## The texts -/

def xmlDeclaration : List Char := "<?xml version=\"1.0\"?>".toList

def envelopeTag : List Char :=
  "s:Envelope xmlns:s=\"http://schemas.xmlsoap.org/soap/envelope/\" ".toList ++
    "s:encodingStyle=\"http://schemas.xmlsoap.org/soap/encoding/\"".toList

def envelopeAttributes : List (List Char × List Char) :=
  [("xmlns:s".toList, "http://schemas.xmlsoap.org/soap/envelope/".toList),
    ("s:encodingStyle".toList, "http://schemas.xmlsoap.org/soap/encoding/".toList)]

/-- The tag of an action of a service. -/
def actionTag (action service : List Char) : List Char :=
  "u:".toList ++ action ++ " xmlns:u=\"urn:schemas-upnp-org:service:".toList ++ service ++
    "\"".toList

def soapBegin (action service : List Char) : List Char :=
  tagText envelopeTag ++ tagText "s:Body".toList ++ tagText (actionTag action service)

def soapEnd (action : List Char) : List Char :=
  tagText ("/u:".toList ++ action) ++ tagText "/s:Body".toList ++ tagText "/s:Envelope".toList

/-! ### Tags -/

/-- The tag of the envelope, with its two attributes. -/
theorem isTag_envelope :
    IsTag envelopeTag (.opens "s:Envelope".toList envelopeAttributes false) := by
  unfold envelopeTag envelopeAttributes
  -- each text is the list of its characters
  repeat rewrite [String.toList_ofList]
  decide +kernel

/-- The tag of the body. -/
theorem isTag_body : IsTag "s:Body".toList (.opens "s:Body".toList [] false) := by
  decide

/-- The tag that closes the body. -/
theorem isTag_bodyEnd : IsTag "/s:Body".toList (.closes "s:Body".toList) := by
  decide

/-- The tag that closes the envelope. -/
theorem isTag_envelopeEnd : IsTag "/s:Envelope".toList (.closes "s:Envelope".toList) := by
  decide

/-! ### Characters -/

/-- The characters of a keyboard: each is one byte, and none ends a line. -/
def IsPrintable (text : List Char) : Prop := text.all (inRanges [(0x20, 0x7E)]) = true

instance (text : List Char) : Decidable (IsPrintable text) :=
  inferInstanceAs (Decidable (_ = true))

namespace IsPrintable

/-- The numbers of the characters. -/
theorem range {text : List Char} (h : IsPrintable text) {c : Char} (hc : c ∈ text) :
    32 ≤ c.toNat ∧ c.toNat ≤ 126 := by
  have hrange := List.all_eq_true.mp h c hc
  simpa [inRanges] using hrange

/-- Texts are joined. -/
theorem append {text rest : List Char} (h : IsPrintable text) (hrest : IsPrintable rest) :
    IsPrintable (text ++ rest) := by
  rw [IsPrintable, List.all_append, h, hrest, Bool.and_true]

/-- A text becomes a tag. -/
theorem tagText {raw : List Char} (h : IsPrintable raw) : IsPrintable (tagText raw) :=
  have hopen : IsPrintable ['<'] := by decide
  have hclose : IsPrintable ['>'] := by decide
  (hopen.append h).append hclose

/-- No line ends in the text. -/
theorem plain {text : List Char} (h : IsPrintable text) : carriageReturn ∉ text := by
  intro hc
  exact absurd (h.range hc).1 (by decide)

/-- A document may have the text in it. -/
theorem legal {text : List Char} (h : IsPrintable text) : ∀ c ∈ text, isXmlChar c = true := by
  intro c hc
  have hrange := h.range hc
  simp [isXmlChar, inRanges]
  omega

/-- Each character of the text is one byte. -/
theorem bytes {text : List Char} (h : IsPrintable text) :
    utf8 text = text.map fun c => c.toNat.toUInt8 :=
  utf8_ascii fun _ hc => Nat.lt_of_le_of_lt (h.range hc).2 (by decide)

end IsPrintable

/-- The bytes of a text that is written in the code. -/
theorem utf8_eq_ascii {text : List Char} {s : String} (h : text = s.toList)
    (hprintable : IsPrintable text) : utf8 text = ascii s := by
  rw [hprintable.bytes, h, ascii]

/-- The declaration is printable. -/
theorem printable_declaration : IsPrintable xmlDeclaration := by
  decide

/-- So is the tag of the envelope. -/
theorem printable_envelope : IsPrintable envelopeTag := by
  unfold envelopeTag
  -- each text is the list of its characters
  repeat rewrite [String.toList_ofList]
  decide

/-- So is the tag of the body. -/
theorem printable_body : IsPrintable "s:Body".toList := by
  decide

/-- So is the attribute of an action. -/
theorem printable_namespace : IsPrintable " xmlns:u=\"urn:schemas-upnp-org:service:".toList := by
  decide

/-- So are the tags behind an action. -/
theorem printable_back : IsPrintable "></s:Body></s:Envelope>".toList := by
  decide

/-- The tags before the action, one line of the code after the other. -/
theorem front_eq : tagText envelopeTag ++ tagText "s:Body".toList =
    "<s:Envelope xmlns:s=\"http://schemas.xmlsoap.org/soap/envelope/\" ".toList ++
      "s:encodingStyle=\"http://schemas.xmlsoap.org/soap/encoding/\">".toList ++
      "<s:Body>".toList := by
  unfold envelopeTag
  repeat rewrite [String.toList_ofList]
  rfl

/-- The bytes of the declaration and of the tags before the action. -/
theorem utf8_front : utf8 xmlDeclaration ++
      (utf8 (tagText envelopeTag) ++ utf8 (tagText "s:Body".toList)) =
    ascii "<?xml version=\"1.0\"?>" ++
      ascii "<s:Envelope xmlns:s=\"http://schemas.xmlsoap.org/soap/envelope/\" " ++
      ascii "s:encodingStyle=\"http://schemas.xmlsoap.org/soap/encoding/\">" ++
      ascii "<s:Body>" := by
  have hdeclaration : utf8 xmlDeclaration = ascii "<?xml version=\"1.0\"?>" :=
    utf8_eq_ascii rfl printable_declaration
  have hfront := (printable_envelope.tagText.append printable_body.tagText).bytes
  rw [← utf8_append, hdeclaration, hfront, front_eq]
  simp only [ascii, List.map_append, List.append_assoc]

/-- The bytes of the tags behind the action. -/
theorem utf8_back : utf8 "></s:Body></s:Envelope>".toList =
    ascii ">" ++ (ascii "</s:Body>" ++ ascii "</s:Envelope>") := by
  rw [utf8_eq_ascii rfl printable_back]
  unfold ascii
  repeat rewrite [String.toList_ofList]
  rfl

/-- The declaration and its last character. -/
theorem xmlDeclaration_eq : xmlDeclaration = "<?xml version=\"1.0\"?".toList ++ ['>'] := by
  unfold xmlDeclaration
  repeat rewrite [String.toList_ofList]
  rfl

/-- The declaration ends with its last character. -/
theorem notMem_xmlDeclaration : '>' ∉ "<?xml version=\"1.0\"?".toList := by
  decide

/-- The tags that close the body and the envelope. -/
theorem actionEnd_eq : "></s:Body></s:Envelope>".toList =
    '>' :: (tagText "/s:Body".toList ++ tagText "/s:Envelope".toList) := by
  repeat rewrite [String.toList_ofList]
  rfl

/-! ### Actions -/

/-- The tag of an action, as it is formatted. -/
theorem tagText_actionTag (action service : List Char) :
    tagText (actionTag action service) = "<u:".toList ++ action ++
      " xmlns:u=\"urn:schemas-upnp-org:service:".toList ++ service ++ "\">".toList := by
  have htag : "<u:".toList = '<' :: "u:".toList := by decide
  have hquote : "\">".toList = "\"".toList ++ ['>'] := by decide
  rw [tagText, actionTag, htag, hquote]
  simp only [List.append_assoc, List.cons_append]

/-- The closing tags, as they are formatted. -/
theorem soapEnd_eq (action : List Char) :
    soapEnd action = "</u:".toList ++ action ++ "></s:Body></s:Envelope>".toList := by
  have hclose : "</u:".toList = '<' :: "/u:".toList := by decide
  rw [soapEnd, hclose, actionEnd_eq, tagText]
  simp only [List.append_assoc, List.cons_append, List.nil_append]

/-- The texts of an action, as bytes and as tags. -/
structure SoapAction (stype : Fin 3) (name : List UInt8) (action service : List Char)
    (attributes : List (List Char × List Char)) : Prop where
  name_bytes : utf8 action = name
  service_bytes : utf8 service = serviceName stype
  name_printable : IsPrintable action
  service_printable : IsPrintable service
  opens : IsTag (actionTag action service) (.opens ("u:".toList ++ action) attributes false)
  closes : IsTag ("/u:".toList ++ action) (.closes ("u:".toList ++ action))

/-- An action whose names are printable and make tags. -/
theorem soapAction_of_printable {stype : Fin 3} {action service : String}
    {attributes : List (List Char × List Char)} (haction : IsPrintable action.toList)
    (hservice : IsPrintable service.toList) (hname : ascii service = serviceName stype)
    (hopens : IsTag (actionTag action.toList service.toList)
      (.opens ("u:".toList ++ action.toList) attributes false))
    (hcloses : IsTag ("/u:".toList ++ action.toList) (.closes ("u:".toList ++ action.toList))) :
    SoapAction stype (ascii action) action.toList service.toList attributes where
  name_bytes := utf8_eq_ascii rfl haction
  service_bytes := (utf8_eq_ascii rfl hservice).trans hname
  name_printable := haction
  service_printable := hservice
  opens := hopens
  closes := hcloses

/-- The attributes of the element of an action of `TmApplicationServer`. -/
def applicationService : List (List Char × List Char) :=
  [("xmlns:u".toList, "urn:schemas-upnp-org:service:TmApplicationServer:1".toList)]

/-- The attributes of the element of an action of `TmClientProfile`. -/
def profileAttributes : List (List Char × List Char) :=
  [("xmlns:u".toList, "urn:schemas-upnp-org:service:TmClientProfile:1".toList)]

/-- The action that asks for a listing. -/
theorem soapAction_getApplicationList :
    SoapAction serviceTypeApp (ascii "GetApplicationList") "GetApplicationList".toList
      "TmApplicationServer:1".toList applicationService := by
  refine soapAction_of_printable (by decide) (by decide) rfl ?_ (by decide)
  unfold actionTag applicationService
  repeat rewrite [String.toList_ofList]
  decide

/-- The action that launches an application. -/
theorem soapAction_launchApplication :
    SoapAction serviceTypeApp (ascii "LaunchApplication") "LaunchApplication".toList
      "TmApplicationServer:1".toList applicationService := by
  refine soapAction_of_printable (by decide) (by decide) rfl ?_ (by decide)
  unfold actionTag applicationService
  repeat rewrite [String.toList_ofList]
  decide

/-- The action that sets the profile. -/
theorem soapAction_setClientProfile :
    SoapAction serviceTypeClp (ascii "SetClientProfile") "SetClientProfile".toList
      "TmClientProfile:1".toList profileAttributes := by
  refine soapAction_of_printable (by decide) (by decide) rfl ?_ (by decide)
  unfold actionTag profileAttributes
  repeat rewrite [String.toList_ofList]
  decide

namespace SoapAction

variable {stype : Fin 3} {name : List UInt8} {action service : List Char}
  {attributes : List (List Char × List Char)} (h : SoapAction stype name action service attributes)

include h

/-- The bytes in front of the arguments. -/
theorem begin_bytes : utf8 (xmlDeclaration ++ soapBegin action service) =
    envelopeBegin stype name := by
  have htag : utf8 "<u:".toList = ascii "<u:" := utf8_eq_ascii rfl (by decide)
  have hnamespace : utf8 " xmlns:u=\"urn:schemas-upnp-org:service:".toList =
      ascii " xmlns:u=\"urn:schemas-upnp-org:service:" := utf8_eq_ascii rfl printable_namespace
  have hquote : utf8 "\">".toList = ascii "\">" := utf8_eq_ascii rfl (by decide)
  rw [soapBegin, tagText_actionTag, utf8_append, utf8_append, utf8_append, ← List.append_assoc,
    utf8_front, envelopeBegin, utf8_append, utf8_append, utf8_append, utf8_append, htag,
    hnamespace, hquote, h.name_bytes, h.service_bytes]

/-- The bytes behind them. -/
theorem end_bytes : utf8 (soapEnd action) = envelopeEnd name := by
  have hclose : utf8 "</u:".toList = ascii "</u:" := utf8_eq_ascii rfl (by decide)
  rw [soapEnd_eq, utf8_append, utf8_append, hclose, utf8_back, h.name_bytes, envelopeEnd]
  simp only [List.append_assoc]

/-- No line ends in front of the arguments. -/
theorem begin_plain : carriageReturn ∉ soapBegin action service := by
  rw [soapBegin, tagText_actionTag, List.mem_append, not_or]
  refine ⟨(printable_envelope.tagText.append printable_body.tagText).plain, ?_⟩
  simp only [List.mem_append, not_or]
  exact ⟨⟨⟨⟨by decide, h.name_printable.plain⟩, printable_namespace.plain⟩,
    h.service_printable.plain⟩, by decide⟩

/-- Nor behind them. -/
theorem end_plain : carriageReturn ∉ soapEnd action := by
  rw [soapEnd_eq]
  simp only [List.mem_append, not_or]
  exact ⟨⟨by decide, h.name_printable.plain⟩, printable_back.plain⟩

end SoapAction

/-! ## Numbers -/

/-- The bytes of numbers, decimal or hexadecimal, with whatever is in front of them. -/
def IsNumeral (bytes : List UInt8) : Prop :=
  ∀ b ∈ bytes, (45 ≤ b.toNat ∧ b.toNat ≤ 57) ∨ (65 ≤ b.toNat ∧ b.toNat ≤ 90) ∨
    (97 ≤ b.toNat ∧ b.toNat ≤ 122)

/-- A decimal number is a numeral. -/
theorem isNumeral_decimal (n : ℕ) : IsNumeral (decimal n) := by
  intro b hb
  have hdigit := isDigit_of_mem_decimal hb
  simp only [isDigit, UInt8.le_iff_toNat_le, decide_eq_true_eq] at hdigit
  exact .inl ⟨Nat.le_trans (by decide) hdigit.1, hdigit.2⟩

/-- So is one with a sign. -/
theorem isNumeral_decimalInt (n : UInt32) : IsNumeral (decimalInt n) := by
  unfold decimalInt
  split_ifs
  · exact isNumeral_decimal _
  · intro b hb
    rcases List.mem_cons.mp hb with rfl | hb
    · exact .inl ⟨le_rfl, by decide⟩
    · exact isNumeral_decimal _ b hb

/-- So are hexadecimal digits. -/
theorem isNumeral_of_hexDigits {bytes : List UInt8}
    (h : ∀ b ∈ bytes, (hexDigit? b).isSome = true) : IsNumeral bytes := by
  intro b hb
  have hdigit := h b hb
  unfold hexDigit? at hdigit
  simp only [UInt8.le_iff_toNat_le] at hdigit
  split_ifs at hdigit with hdecimal hlower hupper
  · exact .inl ⟨Nat.le_trans (by decide) hdecimal.1, hdecimal.2⟩
  · exact .inr (.inr ⟨hlower.1, Nat.le_trans hlower.2 (by decide)⟩)
  · exact .inr (.inl ⟨hupper.1, Nat.le_trans hupper.2 (by decide)⟩)
  · cases hdigit

/-- So is a hexadecimal number, whatever is in front of it. -/
theorem isNumeral_of_isHex {bytes : List UInt8} {n : ℕ} (h : IsHex bytes n) : IsNumeral bytes := by
  obtain ⟨digits, htext, -, hdigits, -⟩ := h
  have hnumeral := isNumeral_of_hexDigits hdigits
  have hzero : 45 ≤ (48 : UInt8).toNat ∧ (48 : UInt8).toNat ≤ 57 := by decide
  rcases htext with rfl | rfl | rfl
  · exact hnumeral
  · have hx : 97 ≤ (120 : UInt8).toNat ∧ (120 : UInt8).toNat ≤ 122 := by decide
    exact List.forall_mem_cons.mpr ⟨.inl hzero, List.forall_mem_cons.mpr ⟨.inr (.inr hx), hnumeral⟩⟩
  · have hx : 65 ≤ (88 : UInt8).toNat ∧ (88 : UInt8).toNat ≤ 90 := by decide
    exact List.forall_mem_cons.mpr ⟨.inl hzero, List.forall_mem_cons.mpr ⟨.inr (.inl hx), hnumeral⟩⟩

section Numeral

variable {bytes : List UInt8} (h : IsNumeral bytes)

include h

/-- The bytes of a numeral are those of its text. -/
theorem utf8_numeral : utf8 (asciiText bytes) = bytes := by
  apply utf8_asciiText
  intro b hb
  have hrange := h b hb
  omega

/-- The characters of a numeral. -/
theorem toNat_of_mem_numeral {c : Char} (hc : c ∈ asciiText bytes) :
    (45 ≤ c.toNat ∧ c.toNat ≤ 57) ∨ (65 ≤ c.toNat ∧ c.toNat ≤ 90) ∨
      (97 ≤ c.toNat ∧ c.toNat ≤ 122) := by
  obtain ⟨b, hb, rfl⟩ := List.mem_map.mp hc
  rw [toNat_ofUInt8]
  exact h b hb

/-- They are plain text. -/
theorem isTextChar_numeral : ∀ c ∈ asciiText bytes, isTextChar c = true := by
  intro c hc
  have hrange := toNat_of_mem_numeral h hc
  rw [isTextChar_iff]
  refine ⟨?_, ?_, ?_⟩
  · simp [isXmlChar, inRanges]
    omega
  · rintro rfl
    revert hrange
    decide
  · rintro rfl
    revert hrange
    decide

/-- No other characters below the letters are among them. -/
theorem not_mem_numeral {c : Char} (hc : c.toNat < 45 ∨ (57 < c.toNat ∧ c.toNat < 65)) :
    c ∉ asciiText bytes := by
  intro hmem
  have hrange := toNat_of_mem_numeral h hmem
  omega

/-- So no section of character data ends in a numeral. -/
theorem not_cdataEnd_numeral : ¬ cdataEnd <:+: asciiText bytes := by
  intro hinfix
  have hmem := hinfix.subset (show '>' ∈ cdataEnd by decide)
  exact not_mem_numeral h (.inr (by decide)) hmem

end Numeral

/-! ## The beginning -/

/-- The declaration is read, and the content is behind it. -/
theorem afterDeclaration_xmlDeclaration (content : List Char) :
    afterDeclaration (xmlDeclaration ++ content) = some content := by
  have hwritten : xmlDeclaration ++ content =
      "<?xml version=\"1.0\"?".toList ++ '>' :: content := by
    rw [xmlDeclaration_eq, List.append_assoc, List.singleton_append]
  have htake : (xmlDeclaration ++ content).takeWhile (· ≠ '>') =
      "<?xml version=\"1.0\"?".toList := by
    have hbefore : ∀ c ∈ "<?xml version=\"1.0\"?".toList, decide (c ≠ '>') = true := by
      intro c hc
      rw [decide_eq_true_eq]
      rintro rfl
      exact notMem_xmlDeclaration hc
    rw [hwritten, List.takeWhile_append_of_pos hbefore, List.takeWhile_cons_of_neg (by simp),
      List.append_nil]
  have hbegins : "<?xml".toList <+: xmlDeclaration ++ content ∧
      ((xmlDeclaration ++ content).drop 5).head?.any isXmlSpace = true :=
    ⟨⟨" version=\"1.0\"?>".toList ++ content, rfl⟩, rfl⟩
  have hlt : "<?xml version=\"1.0\"?".toList.length < (xmlDeclaration ++ content).length := by
    rw [hwritten, List.length_append, List.length_cons]
    omega
  unfold afterDeclaration
  rw [if_pos hbegins]
  dsimp only
  rw [htake, if_pos ⟨by decide, hlt⟩]
  rfl

/-- The elements that are open inside an action. -/
def actionFrames (action : List Char) (attributes : List (List Char × List Char))
    (text : List Char) (children : List XmlElement) : List XmlFrame :=
  [⟨"u:".toList ++ action, attributes, text, children⟩, ⟨"s:Body".toList, [], [], []⟩,
    ⟨"s:Envelope".toList, envelopeAttributes, [], []⟩]

/-- The document of an action. -/
def soapDocument (action : List Char) (attributes : List (List Char × List Char))
    (text : List Char) (children : List XmlElement) : XmlElement :=
  .mk "s:Envelope".toList envelopeAttributes text [.mk "s:Body".toList [] text
    [.mk ("u:".toList ++ action) attributes text children]]

section Envelope

variable {stype : Fin 3} {name : List UInt8} {action service : List Char}
  {attributes : List (List Char × List Char)} (h : SoapAction stype name action service attributes)

include h

/-- The tags in front of the arguments open three elements. -/
theorem run_soapBegin :
    XmlReader.start.run (soapBegin action service) =
      some ⟨.text 0, actionFrames action attributes [] [], none⟩ := by
  have hfirst : XmlReader.start.run (tagText envelopeTag) =
      some ⟨.text 0, [⟨"s:Envelope".toList, envelopeAttributes, [], []⟩], none⟩ :=
    run_tag 0 [] none isTag_envelope
  rw [soapBegin, XmlReader.run_append, XmlReader.run_append, hfirst, Option.bind_some,
    run_opens _ _ _ _ isTag_body, Option.bind_some, run_opens _ _ _ _ h.opens,
    actionFrames]

/-- And the tags behind them close all three. -/
theorem run_soapEnd (brackets : ℕ) (text : List Char) (children : List XmlElement) :
    XmlReader.run ⟨.text brackets, actionFrames action attributes text children, none⟩
        (soapEnd action) =
      some ⟨.text 0, [], some (soapDocument action attributes text children)⟩ := by
  rw [soapEnd, XmlReader.run_append, XmlReader.run_append, actionFrames,
    run_closes _ ⟨"u:".toList ++ action, _, _, _⟩ _ _ _ h.closes, Option.bind_some,
    run_closes _ ⟨"s:Body".toList, _, _, _⟩ _ _ _ isTag_bodyEnd, Option.bind_some,
    run_tag _ _ _ isTag_envelopeEnd]
  rfl

/-- **The body of an action**, up to what is read in the element of the action. -/
theorem readXml_soap (inner : List Char) :
    readXml (xmlDeclaration ++ soapBegin action service ++ inner) =
      (XmlReader.run ⟨.text 0, actionFrames action attributes [] [], none⟩
        (normalizeLineEnds inner)).bind XmlReader.finish := by
  have hplain : carriageReturn ∉ xmlDeclaration ++ soapBegin action service := by
    simp [printable_declaration.plain, h.begin_plain]
  have hcontent : afterDeclaration (normalizeLineEnds
      (xmlDeclaration ++ soapBegin action service ++ inner)) =
        some (soapBegin action service ++ normalizeLineEnds inner) := by
    rw [normalizeLineEnds_append hplain, List.append_assoc, afterDeclaration_xmlDeclaration]
  rw [readXml_of_declaration hcontent, XmlReader.run_append, run_soapBegin h, Option.bind_some]

/-- What is handed over, as a text. -/
theorem utf8_soap (inner : List Char) :
    utf8 (xmlDeclaration ++ soapBegin action service ++ (inner ++ soapEnd action)) =
      envelopeBegin stype name ++ utf8 inner ++ envelopeEnd name := by
  rw [utf8_append, h.begin_bytes, utf8_append, h.end_bytes, List.append_assoc]

end Envelope

/-- The document carries the children of the action. -/
theorem carries_soapDocument (action : List Char) (attributes : List (List Char × List Char))
    (text : List Char) (children : List XmlElement) (arguments : List (List Char × List UInt8)) :
    Carries (soapDocument action attributes text children) action arguments ↔
      children.map (fun e => (e.name, utf8 e.text)) = arguments := by
  constructor
  · rintro ⟨-, body, element, hbody, -, helement, -, harguments⟩
    cases hbody
    cases helement
    exact harguments
  · intro harguments
    exact ⟨rfl, _, _, rfl, rfl, rfl, rfl, harguments⟩

end MirrorLink.Analysis
