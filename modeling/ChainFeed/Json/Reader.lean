import ChainFeed.Text.Digits
import ChainFeed.Value.Basic

/-!
# Reading JSON

A text that is one JSON value between optional blanks. Whole numbers are read exactly, at any size;
a number with a fraction or an exponent, and a negative zero, is kept as text. A field may stand
twice in an object: what that means is for the reader of the record to say.

An escape may stand for half of a surrogate pair whose other half is not there. That is no fault of
the syntax, but it leaves a string, or an object with such a name, garbled.
-/

namespace ChainFeed.Json

def isSpace (c : Char) : Bool := c = ' ' || c = '\t' || c = '\n' || c = '\r'

def skipSpace (s : List Char) : List Char := s.dropWhile isSpace

def hexUnit : List Char → Option (Nat × List Char)
  | a :: b :: c :: d :: rest => do
    let a ← Hex.digitValue? a
    let b ← Hex.digitValue? b
    let c ← Hex.digitValue? c
    let d ← Hex.digitValue? d
    return (4096 * a + 256 * b + 16 * c + d, rest)
  | _ => none

/-- The low half of a surrogate pair, if it comes next. -/
def lowHalf? : List Char → Option (Nat × List Char)
  | '\\' :: 'u' :: rest => do
    let (unit, rest) ← hexUnit rest
    if 0xdc00 ≤ unit && unit ≤ 0xdfff then return (unit, rest) else none
  | _ => none

/-- The character of a `\u` escape, and of the next one with it where they are a surrogate pair.
Half of a pair alone is no character. -/
def unicodeEscape (s : List Char) : Option (Option Char × List Char) := do
  let (unit, rest) ← hexUnit s
  if unit < 0xd800 || 0xdfff < unit then return (some (Char.ofNat unit), rest)
  else if 0xdc00 ≤ unit then return (none, rest)
  else
    match lowHalf? rest with
    | some (low, rest) =>
      return (some (Char.ofNat (0x10000 + 0x400 * (unit - 0xd800) + (low - 0xdc00))), rest)
    | none => return (none, rest)

def plainEscape? : Char → Option Char
  | '"' => some '"'
  | '\\' => some '\\'
  | '/' => some '/'
  | 'b' => some '\x08'
  | 'f' => some '\x0c'
  | 'n' => some '\n'
  | 'r' => some '\r'
  | 't' => some '\t'
  | _ => none

/-- The characters up to the closing quote, behind those `read` so far in reverse. After half of a
character there is nothing to be read, but the end of the string is still looked for. -/
def textRest : Nat → Option (List Char) → List Char → Option (Option String × List Char)
  | 0, _, _ => none
  | _ + 1, _, [] => none
  | _ + 1, read, '"' :: rest => some (read.map fun l => String.ofList l.reverse, rest)
  | fuel + 1, read, '\\' :: 'u' :: rest =>
    match unicodeEscape rest with
    | some (c, rest) => textRest fuel (read.bind fun l => c.map fun c => c :: l) rest
    | none => none
  | fuel + 1, read, '\\' :: e :: rest =>
    match plainEscape? e with
    | some c => textRest fuel (read.map fun l => c :: l) rest
    | none => none
  | fuel + 1, read, c :: rest =>
    if c = '\\' || c.toNat < 0x20 then none else textRest fuel (read.map fun l => c :: l) rest

def text (s : List Char) : Option (Option String × List Char) :=
  textRest (s.length + 1) (some []) s

/-- The digits behind a mark, at least one of them, with the mark in front. -/
def markedDigits (mark rest : List Char) : Option (List Char × List Char) :=
  if (rest.takeWhile Char.isDigit).isEmpty then none
  else some (mark ++ rest.takeWhile Char.isDigit, rest.dropWhile Char.isDigit)

def fractionPart : List Char → Option (List Char × List Char)
  | '.' :: rest => markedDigits ['.'] rest
  | rest => some ([], rest)

def exponentPart : List Char → Option (List Char × List Char)
  | 'e' :: '+' :: rest => markedDigits ['e', '+'] rest
  | 'e' :: '-' :: rest => markedDigits ['e', '-'] rest
  | 'e' :: rest => markedDigits ['e'] rest
  | 'E' :: '+' :: rest => markedDigits ['e', '+'] rest
  | 'E' :: '-' :: rest => markedDigits ['e', '-'] rest
  | 'E' :: rest => markedDigits ['e'] rest
  | rest => some ([], rest)

def numberParts (s : List Char) : Option (List Char × List Char × List Char × List Char) := do
  let whole := s.takeWhile Char.isDigit
  if whole.isEmpty || (whole.head? == some '0' && 1 < whole.length) then none
  else
    let (fraction, rest) ← fractionPart (s.dropWhile Char.isDigit)
    let (exponent, rest) ← exponentPart rest
    return (whole, fraction, exponent, rest)

def number (s : List Char) : Option (Value × List Char) := do
  let (negative, digits) := match s with
    | '-' :: rest => (true, rest)
    | _ => (false, s)
  let (whole, fraction, exponent, rest) ← numberParts digits
  let n := Text.numberOf 10 whole
  if fraction.isEmpty && exponent.isEmpty && !(negative && n == 0) then
    return (.int (if negative then -n else n), rest)
  else
    return (.float (String.ofList
      ((if negative then ['-'] else []) ++ whole ++ fraction ++ exponent)), rest)

mutual

/-- A value at the front of the text. `fuel` bounds the depth and the count of parts. -/
def value : Nat → List Char → Option (Value × List Char)
  | 0, _ => none
  | fuel + 1, s =>
    match s with
    | 'n' :: 'u' :: 'l' :: 'l' :: rest => some (.null, rest)
    | 't' :: 'r' :: 'u' :: 'e' :: rest => some (.bool true, rest)
    | 'f' :: 'a' :: 'l' :: 's' :: 'e' :: rest => some (.bool false, rest)
    | '"' :: rest => do
      let (content, rest) ← text rest
      return (content.elim .garbled .text, rest)
    | '[' :: rest =>
      match skipSpace rest with
      | ']' :: rest => some (.list [], rest)
      | rest => do
        let (items, rest) ← items fuel rest
        return (.list items, rest)
    | '\x7b' :: rest =>
      match skipSpace rest with
      | '\x7d' :: rest => some (.record [], rest)
      | rest => do
        let (fields, rest) ← fields fuel rest
        return (fields.elim .garbled .record, rest)
    | _ => number s

/-- One item or more, and the closing bracket. -/
def items : Nat → List Char → Option (List Value × List Char)
  | 0, _ => none
  | fuel + 1, s => do
    let (v, rest) ← value fuel s
    match skipSpace rest with
    | ']' :: rest => return ([v], rest)
    | ',' :: rest =>
      let (vs, rest) ← items fuel (skipSpace rest)
      return (v :: vs, rest)
    | _ => none

/-- One field or more, and the closing brace. -/
def fields : Nat → List Char → Option (Option (List (String × Value)) × List Char)
  | 0, _ => none
  | fuel + 1, s =>
    match s with
    | '"' :: rest => do
      let (name, rest) ← text rest
      match skipSpace rest with
      | ':' :: rest =>
        let (v, rest) ← value fuel (skipSpace rest)
        match skipSpace rest with
        | '\x7d' :: rest => return (name.map fun name => [(name, v)], rest)
        | ',' :: rest =>
          let (more, rest) ← fields fuel (skipSpace rest)
          return (name.bind fun name => more.map fun more => (name, v) :: more, rest)
        | _ => none
      | _ => none
    | _ => none

end

def read? (s : String) : Option Value :=
  let text := s.toList
  match value (text.length + 1) (skipSpace text) with
  | some (v, rest) => if (skipSpace rest).isEmpty then some v else none
  | none => none

end ChainFeed.Json
