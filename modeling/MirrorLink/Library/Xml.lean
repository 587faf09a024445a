import Mathlib.Data.Nat.Notation
import Mathlib.Data.List.Infix
import Mathlib.Tactic.Common

/-!
# Reading XML

A reader for XML 1.0 documents without a document type declaration, so that the only entities
are the five that are predefined.  It takes one character at a time: `XmlReader` has the
elements that are open and what it is in the middle of, and `XmlReader.step` takes the next
character, or refuses it because the document is not well-formed.

Line ends are made line feeds before anything else.  The text of an element has its character
data, with references decoded, and that of all elements inside.
-/

set_option autoImplicit false

namespace MirrorLink.Library

/-- An element: its name, its attributes, the text in it and the elements in it. -/
inductive XmlElement where
  | mk (name : List Char) (attributes : List (List Char × List Char)) (text : List Char)
    (children : List XmlElement)

namespace XmlElement

def name : XmlElement → List Char
  | mk name _ _ _ => name

def text : XmlElement → List Char
  | mk _ _ text _ => text

def children : XmlElement → List XmlElement
  | mk _ _ _ children => children

end XmlElement

/-! ## Characters -/

def quotationMark : Char := Char.ofNat 34

def apostrophe : Char := Char.ofNat 39

def carriageReturn : Char := Char.ofNat 13

def lineFeed : Char := Char.ofNat 10

/-- The character is in one of some ranges. -/
def inRanges (ranges : List (ℕ × ℕ)) (c : Char) : Bool :=
  ranges.any fun r => r.1 ≤ c.toNat && c.toNat ≤ r.2

def isXmlChar (c : Char) : Bool :=
  inRanges [(0x9, 0xA), (0xD, 0xD), (0x20, 0xD7FF), (0xE000, 0xFFFD), (0x10000, 0x10FFFF)] c

def isXmlSpace (c : Char) : Bool := inRanges [(0x9, 0xA), (0xD, 0xD), (0x20, 0x20)] c

def isNameStart (c : Char) : Bool :=
  inRanges [(0x3A, 0x3A), (0x41, 0x5A), (0x5F, 0x5F), (0x61, 0x7A), (0xC0, 0xD6), (0xD8, 0xF6),
    (0xF8, 0x2FF), (0x370, 0x37D), (0x37F, 0x1FFF), (0x200C, 0x200D), (0x2070, 0x218F),
    (0x2C00, 0x2FEF), (0x3001, 0xD7FF), (0xF900, 0xFDCF), (0xFDF0, 0xFFFD),
    (0x10000, 0xEFFFF)] c

def isNameChar (c : Char) : Bool :=
  isNameStart c || inRanges [(0x2D, 0x2E), (0x30, 0x39), (0xB7, 0xB7), (0x300, 0x36F),
    (0x203F, 0x2040)] c

/-- The text is a name; all of it is `isNameChar` where this is asked. -/
def startsName (name : List Char) : Bool := name.head?.any isNameStart

/-- Line ends, where `afterReturn` says whether a carriage return has just been taken. -/
def normalizeFrom : Bool → List Char → List Char
  | _, [] => []
  | afterReturn, c :: cs =>
    if c = carriageReturn then lineFeed :: normalizeFrom true cs
    else if afterReturn ∧ c = lineFeed then normalizeFrom false cs
    else c :: normalizeFrom false cs

/-- Each CR LF and each other CR becomes LF. -/
def normalizeLineEnds (text : List Char) : List Char := normalizeFrom false text

/-! ## References -/

def digitOf (base : ℕ) (c : Char) : Option ℕ :=
  let n := c.toNat
  let digit := if 48 ≤ n ∧ n ≤ 57 then n - 48
    else if 97 ≤ n ∧ n ≤ 102 then n - 87
    else if 65 ≤ n ∧ n ≤ 70 then n - 55
    else base
  if digit < base then some digit else none

/-- The character of a number in a base. -/
def decodeNumber (base : ℕ) (digits : List Char) : Option Char :=
  match digits.mapM (digitOf base) with
  | some (d :: ds) =>
    let n := (d :: ds).foldl (fun value digit => base * value + digit) 0
    if n.isValidChar ∧ isXmlChar (Char.ofNat n) then some (Char.ofNat n) else none
  | _ => none

/-- What stands between `&` and `;`. -/
def decodeReference (seen : List Char) : Option Char :=
  if seen = ['l', 't'] then some '<'
  else if seen = ['g', 't'] then some '>'
  else if seen = ['a', 'm', 'p'] then some '&'
  else if seen = ['q', 'u', 'o', 't'] then some quotationMark
  else if seen = ['a', 'p', 'o', 's'] then some apostrophe
  else
    match seen with
    | '#' :: 'x' :: digits => decodeNumber 16 digits
    | '#' :: digits => decodeNumber 10 digits
    | _ => none

/-! ## Tags -/

inductive XmlTag where
  | opens (name : List Char) (attributes : List (List Char × List Char)) (empty : Bool)
  | closes (name : List Char)
  deriving DecidableEq

/-- The value of an attribute; the reference it is in, if any, has been `seen` so far. -/
def attributeValue : Option (List Char) → List Char → Option (List Char)
  | none, [] => some []
  | some _, [] => none
  | none, c :: cs =>
    if c = '&' then attributeValue (some []) cs
    else (attributeValue none cs).map fun value => (if isXmlSpace c then ' ' else c) :: value
  | some seen, c :: cs =>
    if c = ';' then do
      let d ← decodeReference seen
      let value ← attributeValue none cs
      pure (d :: value)
    else attributeValue (some (seen ++ [c])) cs

/-- The attributes at the end of a tag, and whether there is a `/` behind them. -/
def attributesOf : ℕ → List Char → Option (List (List Char × List Char) × Bool)
  | 0, _ => none
  | turns + 1, cs =>
    let rest := cs.dropWhile isXmlSpace
    if rest = [] then some ([], false)
    else if rest = ['/'] then some ([], true)
    else if rest.length = cs.length then none
    else
      let name := rest.takeWhile isNameChar
      if startsName name = false then none
      else
        match (rest.drop name.length).dropWhile isXmlSpace with
        | '=' :: after =>
          match after.dropWhile isXmlSpace with
          | quote :: after =>
            if quote = quotationMark ∨ quote = apostrophe then
              let raw := after.takeWhile (· ≠ quote)
              if raw.length < after.length then do
                let value ← attributeValue none raw
                let (attributes, empty) ← attributesOf turns (after.drop (raw.length + 1))
                pure ((name, value) :: attributes, empty)
              else none
            else none
          | [] => none
        | _ => none

/-- What stands between `<` and `>`. -/
def tagOf (raw : List Char) : Option XmlTag :=
  match raw with
  | '/' :: raw =>
    let name := raw.takeWhile isNameChar
    if startsName name ∧ (raw.drop name.length).all isXmlSpace then some (.closes name) else none
  | raw =>
    let name := raw.takeWhile isNameChar
    if startsName name then
      match attributesOf (raw.length + 1) (raw.drop name.length) with
      | some (attributes, empty) =>
        if (attributes.map Prod.fst).Nodup then some (.opens name attributes empty) else none
      | none => none
    else none

/-! ## Comments, CDATA sections and processing instructions -/

/-- What stands between `<` and a `>`, if it begins with `!` or `?`. -/
inductive XmlMarkup where
  /-- It goes on behind the `>`. -/
  | unfinished
  | malformed
  /-- A comment or a processing instruction. -/
  | silent
  | cdata (text : List Char)
  deriving DecidableEq

/-- A target is a name other than `xml`, and white space follows it, if anything. -/
def isInstruction (inner : List Char) : Bool :=
  let target := inner.takeWhile isNameChar
  startsName target && target.map Char.toLower != ['x', 'm', 'l'] &&
    (inner.drop target.length).head?.all isXmlSpace

def markupOf (seen : List Char) : XmlMarkup :=
  if ['!', '-', '-'] <+: seen ∧ ['-', '-'] <:+ seen ∧ 5 ≤ seen.length then
    let inner := (seen.drop 3).dropLast.dropLast
    if ['-', '-'] <:+: inner ++ ['-'] then .malformed else .silent
  else if ['!', '[', 'C', 'D', 'A', 'T', 'A', '['] <+: seen ∧ [']', ']'] <:+ seen ∧
      10 ≤ seen.length then
    .cdata (seen.drop 8).dropLast.dropLast
  else if ['?'] <+: seen ∧ ['?'] <:+ seen ∧ 2 ≤ seen.length then
    if isInstruction (seen.drop 1).dropLast then .silent else .malformed
  else .unfinished

/-! ## The reader -/

/-- An element whose end has not been read. -/
structure XmlFrame where
  name : List Char
  attributes : List (List Char × List Char)
  text : List Char
  children : List XmlElement

/-- What the reader is in the middle of. -/
inductive XmlMode where
  /-- Text, with so many `]` at the end of it. -/
  | text (brackets : ℕ)
  | reference (seen : List Char)
  /-- A tag, and maybe a quoted value in it. -/
  | tag (quote : Option Char) (seen : List Char)
  | markup (seen : List Char)

structure XmlReader where
  mode : XmlMode
  frames : List XmlFrame
  root : Option XmlElement

namespace XmlReader

def start : XmlReader := ⟨.text 0, [], none⟩

/-- More text in the innermost element; outside the root there is only white space. -/
def emit (r : XmlReader) (text : List Char) : Option XmlReader :=
  match r.frames with
  | [] => if text.all isXmlSpace then some r else none
  | f :: fs => some { r with frames := { f with text := f.text ++ text } :: fs }

/-- An element that has ended, with its text, is part of the one around it. -/
def add (r : XmlReader) (e : XmlElement) : Option XmlReader :=
  match r.frames with
  | [] => match r.root with
    | none => some { r with root := some e }
    | some _ => none
  | f :: fs => some { r with
      frames := { f with text := f.text ++ e.text, children := f.children ++ [e] } :: fs }

def apply (r : XmlReader) : XmlTag → Option XmlReader
  | .opens name attributes empty =>
    if empty then r.add (.mk name attributes [] [])
    else if r.frames.isEmpty && r.root.isSome then none
    else some { r with frames := ⟨name, attributes, [], []⟩ :: r.frames }
  | .closes name =>
    match r.frames with
    | [] => none
    | f :: fs =>
      if f.name = name then
        { r with frames := fs }.add (.mk f.name f.attributes f.text f.children)
      else none

def stepText (r : XmlReader) (brackets : ℕ) (c : Char) : Option XmlReader :=
  if c = '<' then some { r with mode := .tag none [] }
  else if c = '&' then if r.frames.isEmpty then none else some { r with mode := .reference [] }
  else if c = '>' ∧ 2 ≤ brackets then none
  else { r with mode := .text (if c = ']' then brackets + 1 else 0) }.emit [c]

def stepReference (r : XmlReader) (seen : List Char) (c : Char) : Option XmlReader :=
  if c = ';' then do
    let d ← decodeReference seen
    { r with mode := .text 0 }.emit [d]
  else if c.isAlphanum || c == '#' then some { r with mode := .reference (seen ++ [c]) }
  else none

def stepTag (r : XmlReader) (quote : Option Char) (seen : List Char) (c : Char) :
    Option XmlReader :=
  if c = '<' then none
  else
    match quote with
    | some q => some { r with mode := .tag (if c = q then none else some q) (seen ++ [c]) }
    | none =>
      if c = '>' then do
        let tag ← tagOf seen
        { r with mode := .text 0 }.apply tag
      else if seen = [] ∧ (c = '!' ∨ c = '?') then some { r with mode := .markup [c] }
      else
        let quote := if c = quotationMark ∨ c = apostrophe then some c else none
        some { r with mode := .tag quote (seen ++ [c]) }

def stepMarkup (r : XmlReader) (seen : List Char) (c : Char) : Option XmlReader :=
  if c = '>' then
    match markupOf seen with
    | .unfinished => some { r with mode := .markup (seen ++ [c]) }
    | .malformed => none
    | .silent => some { r with mode := .text 0 }
    | .cdata text => if r.frames.isEmpty then none else { r with mode := .text 0 }.emit text
  else some { r with mode := .markup (seen ++ [c]) }

/-- The next character. -/
def step (r : XmlReader) (c : Char) : Option XmlReader :=
  if isXmlChar c then
    match r.mode with
    | .text brackets => r.stepText brackets c
    | .reference seen => r.stepReference seen c
    | .tag quote seen => r.stepTag quote seen c
    | .markup seen => r.stepMarkup seen c
  else none

def run (r : XmlReader) (text : List Char) : Option XmlReader := text.foldlM step r

/-- The document is over. -/
def finish (r : XmlReader) : Option XmlElement :=
  match r.mode, r.frames with
  | .text _, [] => r.root
  | _, _ => none

end XmlReader

/-! ## Documents -/

/-- The attributes of an XML declaration, for a text that is in UTF-8. -/
def isDeclaration (attributes : List (List Char × List Char)) : Bool :=
  let version := attributes.head?
  let encoding := (attributes.drop 1).filter fun a => a.1 = "encoding".toList
  let standalone := (attributes.drop 1).filter fun a => a.1 = "standalone".toList
  version.any (fun a => a.1 = "version".toList && ['1', '.'] <+: a.2 && 2 < a.2.length &&
      (a.2.drop 2).all Char.isDigit) &&
    encoding.all (fun a => a.2.map Char.toUpper = "UTF-8".toList) &&
    standalone.all (fun a => a.2 = "yes".toList || a.2 = "no".toList) &&
    attributes.drop 1 = encoding ++ standalone && attributes.length ≤ 3 &&
    (attributes.map Prod.fst).Nodup

/-- What is behind the XML declaration, if there is one. -/
def afterDeclaration (text : List Char) : Option (List Char) :=
  if "<?xml".toList <+: text ∧ (text.drop 5).head?.any isXmlSpace then
    let declaration := text.takeWhile (· ≠ '>')
    if declaration.getLast? = some '?' ∧ declaration.length < text.length then
      match attributesOf (declaration.length + 1) (declaration.drop 5).dropLast with
      | some (attributes, false) =>
        if isDeclaration attributes then some (text.drop (declaration.length + 1)) else none
      | _ => none
    else none
  else some text

/-- The root of the document, if it is well-formed. -/
def readXml (text : List Char) : Option XmlElement := do
  let content ← afterDeclaration (normalizeLineEnds text)
  let r ← XmlReader.start.run content
  r.finish

end MirrorLink.Library
