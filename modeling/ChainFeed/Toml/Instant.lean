import ChainFeed.Toml.Number

/-!
# Dates and times

A date, a time of day, or both with an offset or not, each part within its calendar bounds.
-/

namespace ChainFeed.Toml

def fixedDigits (count : Nat) (s : List Char) : Option (Nat × List Char) :=
  let digits := s.take count
  if digits.length = count && digits.all Char.isDigit then
    some (Text.numberOf 10 digits, s.drop count)
  else none

/-- Two digits that stand for a number between `least` and `greatest`. -/
def bounded (least greatest : Nat) (s : List Char) : Option (Nat × List Char) := do
  let (n, rest) ← fixedDigits 2 s
  if least ≤ n && n ≤ greatest then return (n, rest) else none

def char? (c : Char) : List Char → Option (List Char)
  | d :: rest => if d = c then some rest else none
  | [] => none

def isLeapYear (year : Nat) : Bool :=
  year % 4 = 0 && (year % 100 != 0 || year % 400 = 0)

def daysIn (year month : Nat) : Nat :=
  if month = 2 then (if isLeapYear year then 29 else 28)
  else if month = 4 || month = 6 || month = 9 || month = 11 then 30
  else 31

def date? (s : List Char) : Option (List Char) := do
  let (year, rest) ← fixedDigits 4 s
  let rest ← char? '-' rest
  let (month, rest) ← bounded 1 12 rest
  let rest ← char? '-' rest
  let (_, rest) ← bounded 1 (daysIn year month) rest
  return rest

/-- What follows a time of day, which may end in a leap second. -/
def time? (s : List Char) : Option (List Char) := do
  let (_, rest) ← bounded 0 23 s
  let rest ← char? ':' rest
  let (_, rest) ← bounded 0 59 rest
  let rest ← char? ':' rest
  let (_, rest) ← bounded 0 60 rest
  match rest with
  | '.' :: digits =>
    if (digits.takeWhile Char.isDigit).isEmpty then return rest
    else return digits.dropWhile Char.isDigit
  | _ => return rest

def offset? : List Char → Option (List Char)
  | 'Z' :: rest => some rest
  | 'z' :: rest => some rest
  | c :: rest =>
    if c = '+' || c = '-' then do
      let (_, rest) ← bounded 0 23 rest
      let rest ← char? ':' rest
      let (_, rest) ← bounded 0 59 rest
      return rest
    else none
  | [] => none

/-- What follows a time of day that stands behind a date. -/
def timeBehind? : List Char → Option (List Char)
  | c :: rest =>
    if c = 'T' || c = 't' || c = ' ' then
      (time? rest).map fun rest => (offset? rest).getD rest
    else none
  | [] => none

def instant (s : List Char) : Option (Value × List Char) := do
  let rest ← match date? s with
    | some rest => some ((timeBehind? rest).getD rest)
    | none => time? s
  return (.instant (frontOf s rest), rest)

end ChainFeed.Toml
