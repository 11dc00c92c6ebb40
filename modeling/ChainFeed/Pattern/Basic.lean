import ChainFeed.Pattern.Set
import ChainFeed.Text.Unicode.Alphanumeric

/-!
# Patterns

A pattern is a regular expression: characters, sets, groups, branches between bars, and signs of
repetition. It stands where braces, commas and equals signs end a text, so it has no counts of the
form of two numbers in braces.
-/

namespace ChainFeed.Pattern

structure Item where
  depth : Nat
  /-- A change of the mode cannot be repeated. -/
  canRepeat : Bool

/-- An expression as far as it has been read. -/
structure Expression where
  /-- How deep the branches before the last bar are nested. -/
  branches : List Nat
  /-- The parts of the branch behind it, the latest first. -/
  items : List Item

namespace Expression

def empty : Expression := ⟨[], []⟩

def add (e : Expression) (item : Item) : Expression := { e with items := item :: e.items }

def branchDepth (e : Expression) : Nat := sideBySide (e.items.map Item.depth)

def bar (e : Expression) : Expression := ⟨e.branchDepth :: e.branches, []⟩

def depth (e : Expression) : Nat := sideBySide (e.branchDepth :: e.branches)

def repeat? (e : Expression) : Option Expression :=
  match e.items with
  | ⟨depth, true⟩ :: items => some { e with items := ⟨depth + 1, true⟩ :: items }
  | _ => none

end Expression

/-- What has been read, inside of the groups that are still open. -/
structure Reading where
  mode : Mode
  expression : Expression
  /-- What stands before the open groups, the innermost first. -/
  outer : List (Mode × Expression)
  names : List (List Char)

namespace Reading

def start : Reading := ⟨.standard, .empty, [], []⟩

def add (r : Reading) (depth : Nat) : Reading :=
  { r with expression := r.expression.add ⟨depth, true⟩ }

def addIf (r : Reading) (fits : Bool) (rest : List Char) : Option (Reading × List Char) :=
  if fits then some (r.add 0, rest) else none

def openGroup (r : Reading) (mode : Mode) : Reading :=
  { r with mode, expression := .empty, outer := (r.mode, r.expression) :: r.outer }

def closeGroup? (r : Reading) : Option Reading :=
  match r.outer with
  | [] => none
  | (mode, before) :: outer =>
    some { r with mode, outer, expression := before.add ⟨1 + r.expression.depth, true⟩ }

def isNameStart (c : Char) : Bool := c = '_' || Text.isAlphabetic c

def isNameRest (c : Char) : Bool :=
  c = '_' || c = '.' || c = '[' || c = ']' || Text.isAlphanumeric c

def isName : List Char → Bool
  | [] => false
  | c :: rest => isNameStart c && rest.all isNameRest

/-- A named group behind the angle bracket before its name. -/
def namedGroup? (r : Reading) (s : List Char) : Option (Reading × List Char) :=
  let name := s.takeWhile (· ≠ '>')
  match s.drop name.length with
  | [] => none
  | _ :: rest =>
    if isName name && !r.names.contains name then
      some ({ r with names := name :: r.names }.openGroup r.mode, rest)
    else none

/-- A change of the mode, for a group or for what is left of the one around it. -/
def changed? (r : Reading) (s : List Char) : Option (Reading × List Char) :=
  let text := s.takeWhile fun c => c ≠ ':' && c ≠ ')'
  let mode := r.mode.change text
  if !Mode.areChanges text then none
  else
    match s.drop text.length with
    | ':' :: rest => some (r.openGroup mode, rest)
    | ')' :: rest =>
      if text.isEmpty then none
      else some ({ r with mode, expression := r.expression.add ⟨0, false⟩ }, rest)
    | _ => none

/-- What stands behind an opening parenthesis. There are no groups that look around. -/
def group? (r : Reading) (s : List Char) : Option (Reading × List Char) :=
  match r.mode.skip s with
  | '?' :: 'P' :: '<' :: rest => r.namedGroup? rest
  | '?' :: '<' :: rest => r.namedGroup? rest
  | '?' :: rest => r.changed? rest
  | rest => some (r.openGroup r.mode, rest)

/-- A sign of repetition, which a question mark makes reluctant. -/
def repeated? (r : Reading) (rest : List Char) : Option (Reading × List Char) := do
  let expression ← r.expression.repeat?
  match rest with
  | '?' :: rest => return ({ r with expression }, rest)
  | _ => return ({ r with expression }, rest)

/-- Reads the part of a pattern that begins with a character. -/
def next? (r : Reading) (c : Char) (rest : List Char) : Option (Reading × List Char) :=
  match c with
  | '(' => r.group? rest
  | ')' => r.closeGroup?.map fun r => (r, rest)
  | '|' => some ({ r with expression := r.expression.bar }, rest)
  | '[' => (set? r.mode rest).map fun (depth, rest) => (r.add depth, rest)
  | '?' | '*' | '+' => r.repeated? rest
  | '\x7b' => none
  | '\\' => do
    let (piece, rest) ← Piece.escaped? r.mode rest
    r.addIf (piece.fits r.mode) rest
  | '.' => r.addIf r.mode.unicode rest
  | '^' | '$' => r.addIf true rest
  | _ => r.addIf ((Piece.char c false).fits r.mode) rest

def read? : Nat → Reading → List Char → Option Reading
  | 0, _, _ => none
  | fuel + 1, r, s =>
    match r.mode.skip s with
    | [] => some r
    | c :: rest => do
      let (r, rest) ← r.next? c rest
      read? fuel r rest

end Reading

/-- How deep the parts of a pattern may be nested. -/
def maxDepth : Nat := 250

/-- Whether a text is a pattern that can be matched. -/
def isPattern (s : List Char) : Bool :=
  match Reading.read? (s.length + 1) .start s with
  | some r => r.outer.isEmpty && r.expression.depth ≤ maxDepth
  | none => false

end ChainFeed.Pattern
