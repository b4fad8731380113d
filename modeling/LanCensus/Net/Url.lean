/-
# LanCensus.Net.Url -- addresses of documents

A device says by a URL where the document is that describes it, and whoever has moved a document
says by a URL where to. Such a URL has a scheme, a host, a port, a path and maybe a query. One
that follows a reference may leave out what it has in common with the URL of the referring
document.

Reading is forgiving: blanks around a URL and line breaks within are passed over, backslashes count
as slashes, and any number of slashes may stand in front of the host. What is read is in normal
form: the host of an address is four octets however they were written, the port is a number, the
path has no dot segments, and what may not stand in a path or a query is escaped.
-/

import LanCensus.Net.Address6
import LanCensus.Text.Percent

namespace LanCensus

/-! ## Parts -/

/-- **`Scheme`** — the schemes whose URLs have a host. -/
inductive Scheme where
  | http
  | https
  | ws
  | wss
  | ftp
  deriving DecidableEq, Repr

/-- The scheme of a name in small letters. -/
def Scheme.ofName? (name : List Char) : Option Scheme :=
  match String.ofList name with
  | "http" => some .http
  | "https" => some .https
  | "ws" => some .ws
  | "wss" => some .wss
  | "ftp" => some .ftp
  | _ => none

/-- The port that is meant if none is given. -/
def Scheme.port : Scheme → Nat
  | .http => 80
  | .https => 443
  | .ws => 80
  | .wss => 443
  | .ftp => 21

/-- **`UrlHost`** — the host of a URL. -/
inductive UrlHost where
  | address (a : Address)
  | address6 (a : Address6)
  | name (s : List Char)
  deriving DecidableEq, Repr

/-- **`Url`** — a URL in normal form. -/
structure Url where
  scheme : Scheme
  host : UrlHost
  port : Nat
  /-- The parts of the path; there is at least one. -/
  segments : List (List Char)
  query : Option (List Char)
  deriving DecidableEq, Repr

/-- **`target u`** — the path and the query, as they are asked for. -/
def Url.target (u : Url) : List Char :=
  u.segments.flatMap ('/' :: ·) ++ u.query.elim [] ('?' :: ·)

namespace Url

/-! ## Hosts -/

/-- The value of a number as it may be written in an address: decimal, hexadecimal behind `0x` or
octal behind `0`. -/
def hostNumber? (s : List Char) : Option Nat :=
  let numeral (base : Nat) (digits : List Char) :=
    if digits.isEmpty then some 0 else Text.digits? base digits
  match s with
  | [] => none
  | '0' :: 'x' :: digits | '0' :: 'X' :: digits => numeral 16 digits
  | '0' :: d :: digits => numeral 8 (d :: digits)
  | s => numeral 10 s

/-- The parts of a host between dots, without an empty one at the end. -/
def hostParts (s : List Char) : List (List Char) :=
  let parts := Text.splitAt '.' s
  if parts.getLast? = some [] then parts.dropLast else parts

/-- Whether a host has to be an address, since its last part is a number. -/
def isNumeric (s : List Char) : Bool :=
  match (hostParts s).getLast? with
  | some last => (!last.isEmpty && last.all Char.isDigit) || (hostNumber? last).isSome
  | none => false

/-- The number that octets and a rest spell, which stands for all octets that are left. -/
def spelled? (room : Nat) : List Nat → Option Nat
  | [] => none
  | [rest] => if rest < room then some rest else none
  | octet :: more =>
    if octet < 256 then (spelled? (room / 256) more).map (octet * (room / 256) + ·) else none

/-- The address that a numeric host means. -/
def numericHost? (s : List Char) : Option Address := do
  let parts := hostParts s
  if 4 < parts.length then none
  else (spelled? Text.halfWordBound (← parts.mapM hostNumber?)).map Address.ofNat

/-- Characters that spoil the name of a host. -/
def isForbidden (c : Char) : Bool :=
  c.toNat ≤ 0x20 || c.toNat == 0x7F || "#%/:<>?@[\\]^|".contains c

/-- **`host? s`** — the host that a text means. -/
def host? (s : List Char) : Option UrlHost :=
  match s with
  | '[' :: literal =>
    if literal.getLast? = some ']' then (Address6.parse? literal.dropLast).map .address6 else none
  | s => do
    let name := Text.asciiLower (← Text.unescape? s)
    if name.isEmpty || name.any isForbidden then none
    else if isNumeric name then (numericHost? name).map .address
    else some (.name name)

/-- Splits a text at the first colon outside of brackets. -/
def splitPort (inside : Bool) : List Char → List Char × Option (List Char)
  | [] => ([], none)
  | c :: rest =>
    if c = ':' && !inside then ([], some rest)
    else
      let within := if c = '[' then true else if c = ']' then false else inside
      let (host, port) := splitPort within rest
      (c :: host, port)

/-- The port that digits mean, if there are any. -/
def port? (scheme : Scheme) : Option (List Char) → Option Nat
  | none | some [] => some scheme.port
  | some digits => (Text.digits? 10 digits).filter (· < 65536)

/-- What follows the last mark behind a user's name. -/
def afterUser (s : List Char) : List Char := (s.reverse.takeWhile (· ≠ '@')).reverse

/-! ## Paths and queries -/

/-- Characters that may stand in a path. -/
def isPathChar (c : Char) : Bool :=
  0x20 < c.toNat && c.toNat < 0x7F && !"\"#<>?`\x7b\x7d".contains c

/-- Characters that may stand in a query. -/
def isQueryChar (c : Char) : Bool :=
  0x20 < c.toNat && c.toNat < 0x7F && !"\"#<>'".contains c

/-- Whether a part of a path stays where it is: one dot, which may be escaped. -/
def isHere (s : List Char) : Bool := String.ofList (Text.asciiLower s) ∈ [".", "%2e"]

/-- Whether a part of a path goes up: two dots, which may be escaped. -/
def isUp (s : List Char) : Bool :=
  String.ofList (Text.asciiLower s) ∈ ["..", ".%2e", "%2e.", "%2e%2e"]

/-- **`walk done parts`** — the path that leads on from the parts that have been gone through, the
last one first. -/
def walk : List (List Char) → List (List Char) → List (List Char)
  | done, [] => done.reverse
  | done, [last] =>
    if isUp last then ([] :: done.tail).reverse
    else if isHere last then ([] :: done).reverse
    else (Text.escape isPathChar last :: done).reverse
  | done, part :: rest =>
    if isUp part then walk done.tail rest
    else if isHere part then walk done rest
    else walk (Text.escape isPathChar part :: done) rest

/-- The path that a text leads to from the given parts of a path. -/
def path (start : List (List Char)) (s : List Char) : List (List Char) :=
  walk start.reverse (Text.splitAt '/' s)

/-! ## Whole URLs -/

/-- A URL whose host and path a text holds. -/
def ofAuthority? (scheme : Scheme) (s : List Char) (query : Option (List Char)) : Option Url := do
  let (host, port) := splitPort false (afterUser (s.takeWhile (· ≠ '/')))
  return ⟨scheme, ← host? host, ← port? scheme port,
    path [] ((s.dropWhile (· ≠ '/')).drop 1), query⟩

/-- The URL that a reference without a scheme means. -/
def refer? (base : Url) (s : List Char) (query : Option (List Char)) : Option Url :=
  match s with
  | [] => some { base with query := query <|> base.query }
  | '/' :: '/' :: rest => ofAuthority? base.scheme (rest.dropWhile (· = '/')) query
  | '/' :: rest => some { base with segments := path [] rest, query := query }
  | s => some { base with segments := path base.segments.dropLast s, query := query }

/-- A scheme at the beginning of a text, in small letters, and what follows its colon. -/
def splitScheme (s : List Char) : Option (List Char × List Char) :=
  let name := s.takeWhile fun c => c.isAlphanum || "+-.".contains c
  match s.head?.map Char.isAlpha, s.dropWhile fun c => c.isAlphanum || "+-.".contains c with
  | some true, ':' :: rest => some (Text.asciiLower name, rest)
  | _, _ => none

/-- The text without what is passed over, and with slashes in the place of backslashes up to the
query; the query; all without a fragment. -/
def tidy (s : List Char) : List Char × Option (List Char) :=
  let control (c : Char) : Bool := c.toNat ≤ 0x20
  let s := (Text.dropEndWhile control (s.dropWhile control)).filter fun c =>
    c ≠ '\t' && c ≠ '\n' && c ≠ '\r'
  let s := s.takeWhile (· ≠ '#')
  let query :=
    match s.dropWhile (· ≠ '?') with
    | '?' :: query => some (Text.escape isQueryChar query)
    | _ => none
  ((s.takeWhile (· ≠ '?')).map fun c => if c = '\\' then '/' else c, query)

/-- **`read? base s`** — the URL that a text means, which may be a reference if there is a URL to
start from. -/
def read? (base : Option Url) (s : List Char) : Option Url :=
  let (s, query) := tidy s
  match splitScheme s with
  | none => base.bind fun base => refer? base s query
  | some (name, rest) => do
    let scheme ← Scheme.ofName? name
    match base.filter (·.scheme = scheme), rest with
    | some base, '/' :: '/' :: _ => ofAuthority? base.scheme (rest.dropWhile (· = '/')) query
    | some base, rest => refer? base rest query
    | none, rest => ofAuthority? scheme (rest.dropWhile (· = '/')) query

end Url

end LanCensus
