import ChainFeed.Url.Address
import ChainFeed.Url.Domain
import ChainFeed.Url.Percent

/-!
# Web addresses

An address names a scheme, a host, a port, a path, and perhaps a query and a fragment. Reading
mends much: controls at the ends, tabs and line breaks are left out, any number of slashes may stand
in front of the host, and credentials before the host are passed over.
-/

namespace ChainFeed

inductive Host where
  | name (ascii : List Char)
  | short (address : Nat)
  | long (pieces : List Nat)
  deriving DecidableEq

structure Url where
  /-- Whether the scheme is `https`, and not `http`. -/
  secure : Bool
  host : Host
  /-- None for the port that belongs to the scheme. -/
  port : Option Nat
  path : List (List Char)
  query : Option (List Char)
  fragment : Option (List Char)
  deriving DecidableEq

namespace Host

/-- A host by its name, in which bytes may be written with percent signs. -/
def ofName? (s : List Char) : Option Host := do
  let text ← String.fromUTF8? ⟨(Percent.decode s).toArray⟩
  let ascii ← Url.asciiName? text.toList
  if ascii.isEmpty then none
  else if Url.endsInNumber ascii then return .short (← Url.shortAddress? ascii)
  else return .name ascii

def ofText? : List Char → Option Host
  | '[' :: rest =>
    if rest.getLast? = some ']' then (Url.longAddress? rest.dropLast).map .long else none
  | s => ofName? s

def render : Host → List Char
  | name ascii => ascii
  | short address => Url.renderShort address
  | long pieces => ['['] ++ Url.renderLong pieces ++ [']']

end Host

namespace Url

/-- Leaves out what does not count. -/
def cleaned (s : List Char) : List Char :=
  let isEdge (c : Char) : Bool := c.toNat ≤ 0x20
  let trimmed := ((s.dropWhile isEdge).reverse.dropWhile isEdge).reverse
  trimmed.filter fun c => c ≠ '\t' && c ≠ '\n' && c ≠ '\r'

/-- Both slashes separate. -/
def isSlash (c : Char) : Bool := c = '/' || c = '\\'

/-- What ends the part with the host. -/
def endsAuthority (c : Char) : Bool := isSlash c || c = '?' || c = '#'

def schemePort (secure : Bool) : Nat := if secure then 443 else 80

def scheme? (s : List Char) : Option (Bool × List Char) :=
  let name := s.takeWhile (· ≠ ':')
  let rest := s.drop (name.length + 1)
  match String.ofList (name.map Char.toLower) with
  | "http" => some (false, rest)
  | "https" => some (true, rest)
  | _ => none

/-- What stands behind the last sign of a kind, or all. -/
def afterLast (sign : Char) (s : List Char) : List Char :=
  ((cutAt (· == sign) s).getLast?).getD []

/-- The text of a host. Colons in brackets belong to it. -/
def hostText (inBrackets : Bool) : List Char → List Char
  | [] => []
  | c :: rest =>
    if c = ':' && !inBrackets then []
    else c :: hostText (if c = '[' then true else if c = ']' then false else inBrackets) rest

/-- A port behind its colon. It is none where there are no digits, and for the scheme's own. -/
def port? (secure : Bool) (digits : List Char) : Option (Option Nat) :=
  let n := Text.numberOf 10 digits
  if digits.isEmpty then some none
  else if digits.all Char.isDigit && n < 65536 then
    some (if n = schemePort secure then none else some n)
  else none

def isDot (s : List Char) : Bool := [".", "%2e"].contains (String.ofList (s.map Char.toLower))

def isDotDot (s : List Char) : Bool :=
  ["..", ".%2e", "%2e.", "%2e%2e"].contains (String.ofList (s.map Char.toLower))

/-- Puts a part at the end of a path. One dot names the place itself, two the place above. -/
def extend (path : List (List Char)) (part : List Char) (isLast : Bool) : List (List Char) :=
  let ending := if isLast then [[]] else []
  if isDotDot part then path.dropLast ++ ending
  else if isDot part then path ++ ending
  else path ++ [Percent.encode Percent.refusedInPath part]

def extendAll (path : List (List Char)) : List (List Char) → List (List Char)
  | [] => path
  | [part] => extend path part true
  | part :: parts => extendAll (extend path part false) parts

def pathOf (s : List Char) : List (List Char) :=
  extendAll [] (cutAt isSlash (match s with
    | [] => []
    | _ :: rest => rest))

def authority? (secure : Bool) (s : List Char) : Option (Host × Option Nat) := do
  let s := afterLast '@' s
  let text := hostText false s
  if text.isEmpty then none
  return (← Host.ofText? text, ← port? secure (s.drop (text.length + 1)))

def read? (s : List Char) : Option Url := do
  let (secure, rest) ← scheme? (cleaned s)
  let rest := rest.dropWhile isSlash
  let front := rest.takeWhile fun c => !endsAuthority c
  let (host, port) ← authority? secure front
  let rest := rest.drop front.length
  let path := rest.takeWhile fun c => c ≠ '?' && c ≠ '#'
  let rest := rest.drop path.length
  let query := rest.takeWhile (· ≠ '#')
  let fragment := rest.drop query.length
  let behind (refused : Char → Bool) (s : List Char) : Option (List Char) :=
    s.tail?.map (Percent.encode refused)
  return ⟨secure, host, port, pathOf path, behind Percent.refusedInQuery query,
    behind Percent.refusedInFragment fragment⟩

/-- An address without its fragment. -/
def renderTarget (u : Url) : List Char :=
  (if u.secure then "https://" else "http://").toList ++ u.host.render ++
    (match u.port with
    | none => []
    | some port => ':' :: (toString port).toList) ++
    u.path.flatMap ('/' :: ·) ++ (u.query.map ('?' :: ·)).getD []

def render (u : Url) : String :=
  String.ofList (u.renderTarget ++ (u.fragment.map ('#' :: ·)).getD [])

/-- The signs that may stand in the name of a host, and still cannot be sent. -/
def unsendable : List Char := ['"', '\x60', '\x7b', '\x7d']

/-- The length up to which an address can be sent. -/
def maxLength : Nat := 65534

def isSendable (u : Url) : Bool :=
  u.host.render.all (fun c => !unsendable.contains c) && u.render.length ≤ maxLength

end Url

end ChainFeed
