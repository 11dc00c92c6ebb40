import ChainFeed.Pattern.Mode
import ChainFeed.Text.Digits

/-!
# The smallest parts of a pattern

A backslash takes the meaning of the character behind it away, or gives it one. There are no tables
of characters: neither properties nor case can be asked for where a pattern is about characters.
-/

namespace ChainFeed.Pattern

inductive Piece where
  /-- A character, which may be given by the two digits of a byte. -/
  | char (c : Char) (isByte : Bool)
  /-- Digits, blanks or word characters, or all others. -/
  | shorthand (negated : Bool)
  | edge
  /-- The start or the end of a word, or neither. -/
  | wordEdge
  deriving DecidableEq

namespace Piece

def controls : List (Char × Char) :=
  [('a', '\x07'), ('f', '\x0c'), ('t', '\t'), ('n', '\n'), ('r', '\r'), ('v', '\x0b')]

def isHexDigit (c : Char) : Bool := c.isDigit || ('a' ≤ c && c ≤ 'f') || ('A' ≤ c && c ≤ 'F')

/-- So many hexadecimal digits, and what follows them. -/
def hexDigits? (m : Mode) : Nat → List Char → Option (List Char × List Char)
  | 0, s => some ([], s)
  | count + 1, s =>
    match m.skip s with
    | [] => none
    | c :: rest =>
      if isHexDigit c then (hexDigits? m count rest).map fun (digits, rest) => (c :: digits, rest)
      else none

/-- A character by its number. -/
def numbered? (m : Mode) (count : Nat) (s : List Char) : Option (Piece × List Char) := do
  let (digits, rest) ← hexDigits? m count s
  let n := Text.numberOf 16 digits
  if n.isValidChar then return (.char (.ofNat n) (count == 2), rest) else none

def escaped? (m : Mode) : List Char → Option (Piece × List Char)
  | [] => none
  | c :: rest =>
    match c with
    | 'x' => numbered? m 2 rest
    | 'u' => numbered? m 4 rest
    | 'U' => numbered? m 8 rest
    | 'd' | 's' | 'w' => some (.shorthand false, rest)
    | 'D' | 'S' | 'W' => some (.shorthand true, rest)
    | 'A' | 'z' => some (.edge, rest)
    | 'b' | 'B' | '<' | '>' => some (.wordEdge, rest)
    | _ =>
      match controls.lookup c with
      | some d => some (.char d false, rest)
      | none => if c.toNat < 0x80 && !c.isAlphanum then some (.char c false, rest) else none

/-- Whether a piece can be matched. No piece may match a part of a character. -/
def fits (m : Mode) : Piece → Bool
  | char c isByte => if m.unicode then !m.caseless else !isByte || c.toNat < 0x80
  | shorthand negated => !m.unicode && !negated
  | edge => true
  | wordEdge => !m.unicode

def fitsSet (m : Mode) : Piece → Bool
  | char c _ => if m.unicode then !m.caseless else c.toNat < 0x80
  | shorthand negated => !m.unicode && !negated
  | edge => false
  | wordEdge => false

end Piece

end ChainFeed.Pattern
