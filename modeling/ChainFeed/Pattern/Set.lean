import ChainFeed.Pattern.Piece

/-!
# Sets of characters

A set stands in brackets: characters, ranges, named classes and further sets, with operators between
groups of them.
-/

namespace ChainFeed.Pattern

/-- How deep parts side by side are nested. Two or more of them form a part of their own. -/
def sideBySide : List Nat → Nat
  | [] => 0
  | [depth] => depth
  | depths => 1 + depths.foldl max 0

/-- A set as far as it has been read, by how deep its parts are nested. -/
structure SetPart where
  /-- What stands before the last operator. -/
  left : Option Nat
  /-- What stands behind it, the latest first. -/
  items : List Nat
  /-- Whether nothing but dashes has been read. -/
  atFront : Bool

namespace SetPart

def empty : SetPart := ⟨none, [], true⟩

def add (p : SetPart) (depth : Nat) : SetPart := ⟨p.left, depth :: p.items, false⟩

def addDash (p : SetPart) : SetPart := { p with items := 0 :: p.items }

/-- Whether a closing bracket would be a member, since no set is empty. -/
def isOpening (p : SetPart) : Bool := p.atFront && p.items.isEmpty

def depth (p : SetPart) : Nat :=
  match p.left with
  | none => sideBySide p.items
  | some left => 1 + max left (sideBySide p.items)

def operator (p : SetPart) : SetPart := ⟨some p.depth, [], false⟩

end SetPart

def classNames : List String :=
  ["alnum", "alpha", "ascii", "blank", "cntrl", "digit", "graph", "lower", "print", "punct",
    "space", "upper", "word", "xdigit"]

/-- A named class behind its opening bracket: whether it is negated, and what follows it. -/
def named? : List Char → Option (Bool × List Char)
  | ':' :: rest =>
    let (negated, rest) := match rest with
      | '^' :: rest => (true, rest)
      | _ => (false, rest)
    let name := rest.takeWhile (· ≠ ':')
    match rest.drop name.length with
    | ':' :: ']' :: rest =>
      if classNames.contains (String.ofList name) then some (negated, rest) else none
    | _ => none
  | _ => none

def setPiece? (m : Mode) : List Char → Option (Piece × List Char)
  | [] => none
  | '\\' :: rest => Piece.escaped? m rest
  | c :: rest => some (.char c false, rest)

/-- Passes over a character, a shorthand or a range. -/
def range? (m : Mode) (s : List Char) : Option (List Char) := do
  let (first, rest) ← setPiece? m s
  if !first.fitsSet m then none
  let rest := m.skip rest
  match rest with
  | '-' :: behind =>
    if m.peek? behind = some ']' || m.peek? behind = some '-' then return rest
    let (last, rest) ← setPiece? m (m.skip behind)
    match first, last with
    | .char a _, .char b _ => if last.fitsSet m && a ≤ b then return rest else none
    | _, _ => none
  | _ => return rest

/-- What stands between an opening bracket and the first part of a set. Only a set of characters can
be negated, since a set of bytes would then match parts of characters. -/
def setFront? (m : Mode) (s : List Char) : Option (List Char) :=
  match m.skip s with
  | '^' :: rest => if m.unicode then some rest else none
  | rest => some rest

/-- Reads a set to its closing bracket: how deep it is nested, and what follows it. -/
def setRest? (m : Mode) : Nat → SetPart → List Char → Option (Nat × List Char)
  | 0, _, _ => none
  | fuel + 1, p, s =>
    match m.skip s with
    | [] => none
    | '-' :: rest =>
      if p.atFront then
        if (Piece.char '-' false).fitsSet m then setRest? m fuel p.addDash rest else none
      else
        match rest with
        | '-' :: rest => setRest? m fuel p.operator rest
        | _ => do setRest? m fuel (p.add 0) (← range? m ('-' :: rest))
    | ']' :: rest =>
      if !p.isOpening then some (1 + p.depth, rest)
      else if (Piece.char ']' false).fitsSet m then setRest? m fuel (p.add 0) rest
      else none
    | '&' :: '&' :: rest => setRest? m fuel p.operator rest
    | '~' :: '~' :: rest => setRest? m fuel p.operator rest
    | '[' :: rest =>
      match named? rest with
      | some (negated, rest) =>
        if if m.unicode then m.caseless else negated then none
        else setRest? m fuel (p.add 0) rest
      | none => do
        let (depth, rest) ← setRest? m fuel .empty (← setFront? m rest)
        setRest? m fuel (p.add depth) rest
    | other => do setRest? m fuel (p.add 0) (← range? m other)

def set? (m : Mode) (s : List Char) : Option (Nat × List Char) := do
  setRest? m (s.length + 1) .empty (← setFront? m s)

end ChainFeed.Pattern
