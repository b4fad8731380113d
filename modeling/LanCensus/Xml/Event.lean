/-
# LanCensus.Xml.Event -- XML as a sequence of events

A text is cut into tags, character data and the like. Comments, processing instructions and the
XML declaration leave no trace but the cut between the texts around them. An element that is empty
by its own tag yields a start and an end. The first fault ends the sequence.

The scanner sees to it that tags are closed in their order. It does not look into the attributes
of a tag, except for namespaces that are bound against the rules.
-/

import LanCensus.Text.Blank

namespace LanCensus.Xml

/-- **`Event`** — a piece of a text. -/
inductive Event where
  /-- A start tag: its name, and what else it holds. -/
  | start (name : List Char) (rest : List Char)
  /-- An end tag. -/
  | stop
  /-- Character data in which references have not been resolved. -/
  | text (raw : List Char)
  /-- Character data as it is. -/
  | verbatim (raw : List Char)
  /-- A document type declaration. -/
  | doctype
  /-- The end of the text. -/
  | finish
  /-- The text is not XML from here on. -/
  | fault
  deriving DecidableEq, Repr

/-- The blanks of XML. -/
def isSpace (c : Char) : Bool := c == ' ' || c == '\t' || c == '\n' || c == '\r'

/-- A text without blanks at its end. -/
def trimEnd (s : List Char) : List Char := Text.dropEndWhile isSpace s

/-! ## Ends of markup -/

/-- The text up to the bracket that closes a tag, and what follows it. A bracket in quotes closes
nothing. -/
def closeTag (quote : Option Char) : List Char → Option (List Char × List Char)
  | [] => none
  | c :: rest =>
    let more (quote : Option Char) := (closeTag quote rest).map fun (t, r) => (c :: t, r)
    match quote with
    | none =>
      if c = '>' then some ([], rest)
      else if c = '"' || c = '\'' then more (some c)
      else more none
    | some q => if c = q then more none else more (some q)

/-- The text up to the first bracket with the mark `mark` right before it, and what follows it.
`seen` holds what has been passed, last first; at least `least` characters have to be passed. -/
def closeAfter (mark : List Char) (least : Nat) (seen : List Char) :
    List Char → Option (List Char × List Char)
  | [] => none
  | c :: rest =>
    if c = '>' && least ≤ seen.length && mark.isPrefixOf seen then some (seen.reverse, rest)
    else closeAfter mark least (c :: seen) rest

/-- What follows a document type declaration, in which brackets may be nested, and the text of the
declaration. -/
def closeDoctype (depth : Nat) : List Char → Option (List Char × List Char)
  | [] => none
  | c :: rest =>
    let more (depth : Nat) := (closeDoctype depth rest).map fun (t, r) => (c :: t, r)
    if c = '<' then more (depth + 1)
    else if c = '>' then
      match depth with
      | 0 => some ([], rest)
      | depth + 1 => more depth
    else more depth

/-! ## Attributes -/

/-- **`Attribute`** — a name and its raw value. -/
structure Attribute where
  name : List Char
  value : List Char
  deriving DecidableEq, Repr

/-- **`AttributeStep`** — the next attribute, or a fault, and where to go on after it. -/
inductive AttributeStep where
  | found (a : Attribute) (rest : List Char)
  | broken (rest : List Char)
  | done

/-- The text from its first blank on. -/
def skipValue (s : List Char) : List Char := s.dropWhile fun c => !isSpace c

/-- The text after a value, of which nothing is known. -/
def skipQuoted (s : List Char) : List Char :=
  match s.dropWhile isSpace with
  | [] => []
  | q :: rest =>
    if q = '"' || q = '\'' then (rest.dropWhile (· ≠ q)).drop 1 else skipValue (q :: rest)

/-- The value of an attribute, from behind its equals sign. -/
def attributeValue (name : List Char) (s : List Char) : AttributeStep :=
  match s.dropWhile isSpace with
  | [] => .broken []
  | q :: rest =>
    if q = '"' || q = '\'' then
      match rest.span (· ≠ q) with
      | (value, _ :: rest) => .found ⟨name, value⟩ rest
      | (_, []) => .broken []
    else .broken (skipValue (q :: rest))

/-- The next attribute of a tag. Its name must not be one of those `known`. -/
def nextAttribute (known : List (List Char)) (s : List Char) : AttributeStep :=
  match s.dropWhile isSpace with
  | [] => .done
  | first :: s =>
    let (name, s) := s.span fun c => c ≠ '=' && !isSpace c
    let name := first :: name
    match s.dropWhile isSpace with
    | '=' :: rest =>
      if known.contains name then .broken (skipQuoted rest) else attributeValue name rest
    | rest => .broken rest

/-- The attributes of a tag in their order, with `none` for each that is broken. `fuel` bounds
their number. -/
def attributesFrom (distinct : Bool) : Nat → List (List Char) → List Char →
    List (Option Attribute)
  | 0, _, _ => []
  | fuel + 1, known, s =>
    match nextAttribute known s with
    | .done => []
    | .broken rest => none :: attributesFrom distinct fuel known rest
    | .found a rest =>
      some a :: attributesFrom distinct fuel (if distinct then a.name :: known else known) rest

/-- **`attributes s`** — the attributes in the rest of a tag; no name may come twice. -/
def attributes (s : List Char) : List (Option Attribute) :=
  attributesFrom true (s.length + 1) [] s

/-! ## Namespaces -/

/-- A namespace of the standard. All of them are named like documents of one host. -/
def standardNamespace (path : String) : List Char :=
  ("http:" ++ "//" ++ "www.w3.org" ++ "/" ++ path).toList

/-- The namespace that the name `xml` stands for. -/
def xmlNamespace : List Char := standardNamespace "XML/1998/namespace"

/-- The namespace that the name `xmlns` stands for. -/
def xmlnsNamespace : List Char := standardNamespace "2000/xmlns/"

/-- The name that an attribute binds to a namespace. -/
def Attribute.binds? (a : Attribute) : Option (List Char) :=
  if "xmlns:".toList.isPrefixOf a.name then some (a.name.drop 6) else none

/-- The attributes of a tag before the first that is broken. -/
def soundAttributes (s : List Char) : List Attribute :=
  ((attributesFrom false (s.length + 1) [] s).takeWhile Option.isSome).filterMap id

/-- The names that a tag binds to namespaces. -/
def bindings (s : List Char) : List (List Char × List Char) :=
  (soundAttributes s).filterMap fun a => a.binds?.map (·, a.value)

/-- Whether a tag binds a name against the rules. -/
def bindsWrongly (s : List Char) : Bool :=
  (bindings s).any fun (name, value) =>
    if name = "xml".toList then value ≠ xmlNamespace
    else name = "xmlns".toList || value = xmlNamespace || value = xmlnsNamespace

/-! ## The scanner -/

/-- Whether a text begins with a word, in letters of any case. -/
def beginsLike (word : String) (s : List Char) : Bool :=
  word.toList.isPrefixOf (Text.asciiLower s)

/-- The events of a text from behind an opening bracket on, or from any other place. `opened`
holds the names of the elements that are open, the innermost first. -/
def scanFrom : Nat → Bool → List (List Char) → List Char → List Event
  | 0, _, _, _ => [.fault]
  | fuel + 1, false, opened, s =>
    match s.span (· ≠ '<') with
    | ([], []) => [.finish]
    | (t, []) => [.text t, .finish]
    | ([], _ :: rest) => scanFrom fuel true opened rest
    | (t, _ :: rest) => .text t :: scanFrom fuel true opened rest
  | _ + 1, true, _, [] => [.fault]
  | fuel + 1, true, opened, '!' :: s =>
    match s with
    | '-' :: _ =>
      match closeAfter ['-', '-'] 5 ['!'] s with
      | some (t, rest) =>
        if "!--".toList.isPrefixOf t then scanFrom fuel false opened rest else [.fault]
      | none => [.fault]
    | '[' :: _ =>
      match closeAfter [']', ']'] 0 ['!'] s with
      | some (t, rest) =>
        if "![CDATA[".toList.isPrefixOf t then
          .verbatim ((t.drop 8).take (t.length - 10)) :: scanFrom fuel false opened rest
        else [.fault]
      | none => [.fault]
    | _ =>
      if beginsLike "d" s then
        match closeDoctype 0 s with
        | some (t, rest) =>
          if beginsLike "doctype" t && !(t.drop 7).all isSpace then
            .doctype :: scanFrom fuel false opened rest
          else [.fault]
        | none => [.fault]
      else [.fault]
  | fuel + 1, true, opened, '?' :: s =>
    match closeAfter ['?'] 0 ['?'] s with
    | some (t, rest) => if t.length < 2 then [.fault] else scanFrom fuel false opened rest
    | none => [.fault]
  | fuel + 1, true, opened, '/' :: s =>
    match closeTag none s, opened with
    | some (t, rest), name :: above =>
      let found := if t.all isSpace then t else trimEnd t
      if found = name then .stop :: scanFrom fuel false above rest else [.fault]
    | _, _ => [.fault]
  | fuel + 1, true, opened, s =>
    match closeTag none s with
    | none => [.fault]
    | some (t, rest) =>
      let isEmpty := t.getLast? = some '/'
      let t := if isEmpty then t.dropLast else t
      let (name, inside) := t.span fun c => !isSpace c
      if bindsWrongly inside then [.fault]
      else if isEmpty then .start name inside :: .stop :: scanFrom fuel false opened rest
      else .start name inside :: scanFrom fuel false (name :: opened) rest

/-- The text without the mark that may stand at the beginning of a file. -/
def dropMark : List Char → List Char
  | '\uFEFF' :: rest => rest
  | s => s

/-- **`scan s`** — the events of a text. -/
def scan (s : List Char) : List Event :=
  let s := dropMark s
  scanFrom (2 * s.length + 2) false [] s

end LanCensus.Xml
