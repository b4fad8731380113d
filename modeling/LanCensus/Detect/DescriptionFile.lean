/-
# LanCensus.Detect.DescriptionFile -- the document in which a device describes itself

The document's first element, whatever its name, holds an element `device`, and that holds what
the device tells about itself, each fact in an element of its own. Anything else is passed over. A
fact that comes twice, or one that holds more than text, spoils the document.
-/

import LanCensus.Detect.Description
import LanCensus.Xml.Content

namespace LanCensus.Detect

open Xml

/-- The facts that have been read, by the names of their elements. An absent one is there without
a text. -/
abbrev Facts := List (List Char × Option String)

/-- The names of the facts. -/
def factNames : List String := ["deviceType", "friendlyName", "manufacturer", "modelName"]

/-- The description that facts make. -/
def Facts.description (facts : Facts) : Description :=
  let fact (name : String) := (facts.lookup name.toList).join
  ⟨fact "deviceType", fact "friendlyName", fact "manufacturer", fact "modelName"⟩

/-- The facts of a device whose start tag has been read, and the events after it. `outer` is what
that tag holds. -/
def readFacts (scope : Scope) (outer : List Char) : Nat → Facts → List Event →
    Option (Facts × List Event)
  | 0, _, _ => none
  | fuel + 1, facts, es => do
    match ← nextPiece es with
    | (.stop, rest) => return (facts, rest)
    | (.finish, _) => none
    | (.text _, rest) => readFacts scope outer fuel facts rest
    | (.start name inside, rest) =>
      let name := localName name
      if factNames.any (·.toList = name) then
        if facts.any (·.1 = name) then none
        else
          let scope' := (scope.within inside).ahead rest
          if isAbsent scope' outer || isAbsent scope' inside then
            readFacts scope outer fuel ((name, none) :: facts) (← skipElement rest)
          else
            let (s, rest) ← elementText rest
            readFacts scope outer fuel ((name, some (String.ofList s)) :: facts) rest
      else readFacts scope outer fuel facts (← skipElement rest)

/-- The device in the first element, whose start tag has been read. -/
def readDevice (scope : Scope) (outer : List Char) : Nat → Option (Option Description) →
    List Event → Option (Option Description)
  | 0, _, _ => none
  | fuel + 1, found, es => do
    match ← nextPiece es with
    | (.stop, _) => return found.join
    | (.finish, _) => none
    | (.text _, rest) => readDevice scope outer fuel found rest
    | (.start name inside, rest) =>
      if localName name = "device".toList then
        if found.isSome then none
        else
          let inner := scope.within inside
          let ahead := inner.ahead rest
          if isAbsent ahead outer || isAbsent ahead inside then
            readDevice scope outer fuel (some none) (← skipElement rest)
          else if !isSound inside then none
          else
            let (facts, rest) ← readFacts inner inside rest.length [] rest
            readDevice scope outer fuel (some (some facts.description)) rest
      else readDevice scope outer fuel found (← skipElement rest)

/-- **`readDescription s`** — the description in a document. -/
def readDescription (s : List Char) : Option Description := do
  let es := trimStarts true (scan s)
  match ← nextPiece es with
  | (.start _ inside, rest) =>
    if isSound inside then
      (readDevice (Scope.within [] inside) inside rest.length none rest).join
    else none
  | _ => none

/-- **`labelOfDocument s`** — the label of the device that a document describes; a document that
describes none has a label all the same. -/
def labelOfDocument (s : List Char) : String :=
  (readDescription s).elim plainUpnpLabel Description.label

end LanCensus.Detect
