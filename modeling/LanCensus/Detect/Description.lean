/-
# LanCensus.Detect.Description -- labels of devices that describe themselves

A UPnP device describes itself by a type, a maker and a model. The label puts them together. A
device that says nothing of use has a label all the same.
-/

import LanCensus.Text.Blank
import LanCensus.Text.Letter

namespace LanCensus.Detect

/-- The name of the detector that asks for descriptions. -/
def upnpName : String := "upnp"

/-- Its priority unless another is given. -/
def upnpPriority : Int := 10

/-- The label of a device that describes nothing of use. -/
def plainUpnpLabel : String := "UPnP Device"

/-- **`Description`** — what a device tells about itself. -/
structure Description where
  deviceType : Option String
  friendlyName : Option String
  manufacturer : Option String
  modelName : Option String
  deriving DecidableEq, Repr

/-! ## Types -/

/-- The text with a blank before each capital letter that follows a small one or a digit; `small`
says whether such a one stands in front. -/
def spacedFrom (small : Bool) : List Char → List Char
  | [] => []
  | c :: rest =>
    let tail := c :: spacedFrom (Text.isLower c || c.isDigit) rest
    if Text.isUpper c && small then ' ' :: tail else tail

/-- **`spaced s`** — words that are written together, told apart. -/
def spaced (s : List Char) : List Char := spacedFrom false s

/-- **`kindOfType urn`** — the kind of device that a type names in its fourth part. -/
def kindOfType (urn : List Char) : Option (List Char) :=
  match (Text.splitAt ':' urn)[3]? with
  | none => none
  | some name =>
    match String.ofList name with
    | "InternetGatewayDevice" | "WANDevice" | "WANConnectionDevice" => some "Router".toList
    | "Basic" | "" => none
    | _ => some (spaced name)

/-! ## Labels -/

/-- A text without blanks around it, unless nothing is left. -/
def meaningful (s : List Char) : Option (List Char) :=
  let s := Text.trim s
  if s.isEmpty then none else some s

namespace Description

/-- The maker: what stands before the first comma. -/
def vendor (d : Description) : Option (List Char) :=
  d.manufacturer.bind fun s => meaningful (s.toList.takeWhile (· ≠ ','))

/-- The model. -/
def model (d : Description) : Option (List Char) := d.modelName.bind fun s => meaningful s.toList

/-- Maker and model; a model that begins with the name of its maker stands alone. -/
def product (d : Description) : Option (List Char) :=
  match d.vendor, d.model with
  | some v, some m =>
    if (Text.lower v).isPrefixOf (Text.lower m) then some m else some (v ++ ' ' :: m)
  | some v, none => some v
  | none, some m => some m
  | none, none => none

/-- **`label d`** — the label of a device. -/
def label (d : Description) : String :=
  match d.deviceType.bind fun t => kindOfType t.toList, d.product with
  | some kind, some product => String.ofList (kind ++ " (".toList ++ product ++ [')'])
  | some kind, none => String.ofList kind
  | none, some product => String.ofList product
  | none, none => plainUpnpLabel

end Description

end LanCensus.Detect
