import ChainFeed.Data.Cut
import ChainFeed.Text.Digits

/-!
# Numeric addresses

Addresses of 32 bits are one to four numbers between points, of which the last one fills what the
others leave. Addresses of 128 bits are eight pieces between colons. A row of pieces that are zero
may be left out, and the last two may be written as an address of 32 bits.
-/

namespace ChainFeed.Url

def isHexDigit (c : Char) : Bool := (Hex.digitValue? c).isSome

def isOctalDigit (c : Char) : Bool := '0' ≤ c && c ≤ '7'

/-- A number that is written in base 16, 8 or 10. No digits behind the mark of a base are zero. -/
def number? (s : List Char) : Option Nat :=
  match s with
  | [] => none
  | '0' :: 'x' :: digits | '0' :: 'X' :: digits =>
    if digits.all isHexDigit then some (Text.numberOf 16 digits) else none
  | '0' :: digit :: digits =>
    if (digit :: digits).all isOctalDigit then some (Text.numberOf 8 (digit :: digits)) else none
  | digits => if digits.all Char.isDigit then some (Text.numberOf 10 digits) else none

/-- The parts between points. A point at the end does not count. -/
def pointParts (s : List Char) : List (List Char) :=
  let parts := cutAt (· == '.') s
  if 1 < parts.length && parts.getLast? == some [] then parts.dropLast else parts

/-- Whether a name can be nothing but an address. -/
def endsInNumber (s : List Char) : Bool :=
  match (pointParts s).getLast? with
  | none => false
  | some part => !part.isEmpty && (part.all Char.isDigit || (number? part).isSome)

def shortAddress? (s : List Char) : Option Nat := do
  let numbers ← (pointParts s).mapM number?
  match numbers.reverse with
  | [] => none
  | last :: others =>
    if 3 < others.length || others.any (255 < ·) || Nat.pow 256 (4 - others.length) ≤ last then
      none
    else
      return (others.reverse.zipIdx.map fun (n, i) => n * Nat.pow 256 (3 - i)).foldl (· + ·) last

def octet? (s : List Char) : Option Nat :=
  let n := Text.numberOf 10 s
  if !s.isEmpty && s.all Char.isDigit && (s.length = 1 || s.head? ≠ some '0') && n ≤ 255 then some n
  else none

def octetPieces? (s : List Char) : Option (List Nat) := do
  match ← (cutAt (· == '.') s).mapM octet? with
  | [a, b, c, d] => return [256 * a + b, 256 * c + d]
  | _ => none

def piece? (s : List Char) : Option Nat :=
  if !s.isEmpty && s.length ≤ 4 && s.all isHexDigit then some (Text.numberOf 16 s) else none

/-- The pieces between colons. Only those at the end of an address may end in octets. -/
def pieces? (atEnd : Bool) (s : List Char) : Option (List Nat) :=
  if s.isEmpty then some []
  else
    let parts := cutAt (· == ':') s
    match parts.mapM piece? with
    | some pieces => some pieces
    | none => do
      if !atEnd then none
      let front ← parts.dropLast.mapM piece?
      return front ++ (← octetPieces? (← parts.getLast?))

/-- The text in front of two colons, and the text behind them. -/
def aroundGap? : List Char → Option (List Char × List Char)
  | [] => none
  | ':' :: ':' :: rest => some ([], rest)
  | c :: rest => (aroundGap? rest).map fun (front, behind) => (c :: front, behind)

def longAddress? (s : List Char) : Option (List Nat) := do
  match aroundGap? s with
  | none => do
    let pieces ← pieces? true s
    if !s.isEmpty && pieces.length = 8 then return pieces else none
  | some (front, behind) => do
    let front ← pieces? false front
    let behind ← pieces? true behind
    let gap := 8 - (front.length + behind.length)
    if gap = 0 then none else return front ++ List.replicate gap 0 ++ behind

def renderShort (address : Nat) : List Char :=
  [24, 16, 8, 0].map (fun shift => (toString (address >>> shift % 256)).toList)
    |> List.intersperse ['.'] |> List.flatten

/-- How many pieces at the front are zero. -/
def zeros (pieces : List Nat) : Nat := (pieces.takeWhile (· == 0)).length

/-- Where the longest row of zeros begins, and its length. Of two the first counts. -/
def longestGap : List Nat → Nat × Nat
  | [] => (0, 0)
  | pieces@(_ :: rest) =>
    let (start, length) := longestGap rest
    if length ≤ zeros pieces then (0, zeros pieces) else (start + 1, length)

def renderPieces (pieces : List Nat) : List Char :=
  (pieces.map (Nat.toDigits 16) |> List.intersperse [':']).flatten

/-- The longest row of zeros is left out. -/
def renderLong (pieces : List Nat) : List Char :=
  let (start, length) := longestGap pieces
  if length < 2 then renderPieces pieces
  else renderPieces (pieces.take start) ++ [':', ':'] ++ renderPieces (pieces.drop (start + length))

end ChainFeed.Url
