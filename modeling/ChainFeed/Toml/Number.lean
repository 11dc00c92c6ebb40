import ChainFeed.Text.Digits
import ChainFeed.Toml.Text
import ChainFeed.Value.Basic

/-!
# Numbers

Whole numbers of 64 bits with a sign, in base ten, sixteen, eight or two, and numbers with a
fraction or an exponent, which are kept as text. Underscores may stand between digits.
-/

namespace ChainFeed.Toml

/-- More digits, each with an underscore in front or not. -/
def moreDigits (accept : Char → Bool) : List Char → List Char × List Char
  | '_' :: c :: rest =>
    if accept c then
      let (digits, rest) := moreDigits accept rest
      (c :: digits, rest)
    else ([], '_' :: c :: rest)
  | c :: rest =>
    if accept c then
      let (digits, rest) := moreDigits accept rest
      (c :: digits, rest)
    else ([], c :: rest)
  | [] => ([], [])

def digits? (accept : Char → Bool) : List Char → Option (List Char × List Char)
  | c :: rest =>
    if accept c then
      let (digits, rest) := moreDigits accept rest
      some (c :: digits, rest)
    else none
  | [] => none

def sign : List Char → Bool × List Char
  | '+' :: rest => (false, rest)
  | '-' :: rest => (true, rest)
  | s => (false, s)

/-- Digits without a zero in front of others. -/
def wholeDigits? : List Char → Option (List Char × List Char)
  | '0' :: rest => some (['0'], rest)
  | s => digits? Char.isDigit s

def isBaseDigit (base : Nat) (c : Char) : Bool := (Hex.digitValue? c).any (· < base)

/-- A whole number, if it fits. -/
def int? (negative : Bool) (n : Nat) : Option Value :=
  if negative then (if n ≤ 0x8000000000000000 then some (.int (-n)) else none)
  else if n < 0x8000000000000000 then some (.int n) else none

def based (base : Nat) (s : List Char) : Option (Value × List Char) := do
  let (digits, rest) ← digits? (isBaseDigit base) s
  return (← int? false (Text.numberOf base digits), rest)

def integer : List Char → Option (Value × List Char)
  | '0' :: 'x' :: rest => based 16 rest
  | '0' :: 'o' :: rest => based 8 rest
  | '0' :: 'b' :: rest => based 2 rest
  | s => do
    let (negative, s) := sign s
    let (digits, rest) ← wholeDigits? s
    return (← int? negative (Text.numberOf 10 digits), rest)

/-- Whether `digits` times ten to the power `exponent` lies beyond the greatest double. -/
def isTooLarge (digits : List Char) (exponent : Int) : Bool :=
  let n := Text.numberOf 10 digits
  let size := (digits.dropWhile (· = '0')).length + exponent
  if n = 0 || size < 309 then false
  else if 309 < size then true
  else
    let bound := Nat.pow 2 1024 - Nat.pow 2 970
    if 0 ≤ exponent then bound ≤ n * Nat.pow 10 exponent.toNat
    else bound * Nat.pow 10 (-exponent).toNat ≤ n

def exponent? : List Char → Option (Int × List Char)
  | mark :: rest =>
    if mark = 'e' || mark = 'E' then do
      let (negative, s) := sign rest
      let (digits, rest) ← digits? Char.isDigit s
      let n : Int := Text.numberOf 10 digits
      return (if negative then -n else n, rest)
    else none
  | [] => none

def fraction? : List Char → Option (List Char × List Char)
  | '.' :: rest => digits? Char.isDigit rest
  | _ => none

/-- The part of a text in front of one of its tails. -/
def frontOf (s rest : List Char) : String := String.ofList (s.take (s.length - rest.length))

def float (s : List Char) : Option (Value × List Char) :=
  let (negative, unsigned) := sign s
  match unsigned with
  | 'i' :: 'n' :: 'f' :: rest => some (.float (frontOf s rest), rest)
  | 'n' :: 'a' :: 'n' :: rest => some (.float (frontOf s rest), rest)
  | _ => do
    let (whole, rest) ← wholeDigits? unsigned
    let (fraction, rest) ← match fraction? rest with
      | some (digits, rest) => some (digits, rest)
      | none => if (exponent? rest).isSome then some ([], rest) else none
    let (exponent, rest) := (exponent? rest).getD (0, rest)
    if !negative && isTooLarge (whole ++ fraction) (exponent - fraction.length) then none
    else return (.float (frontOf s rest), rest)

end ChainFeed.Toml
