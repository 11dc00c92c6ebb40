/-!
# Characters in ASCII letters

A text is written as its ASCII characters, a hyphen, and numbers that tell where the other
characters go: in the order of the characters, each number counts the places that are passed over
since the last one. The numbers have digits of base 36, with thresholds that follow their size.
-/

namespace ChainFeed.Punycode

/-- Letters come before digits. -/
def digitChar (d : Nat) : Char := if d < 26 then .ofNat (97 + d) else .ofNat (22 + d)

def digitValue? (c : Char) : Option Nat :=
  if c.isDigit then some (c.toNat - 22)
  else if c.isAlpha then some (c.toLower.toNat - 97)
  else none

/-- A digit below the threshold ends its number. -/
def threshold (place bias : Nat) : Nat := max 1 (min 26 (place - bias))

/-- Scales a number down to at most 455. -/
def scaled (delta place : Nat) : Nat × Nat :=
  if 455 < delta then scaled (delta / 35) (place + 36) else (delta, place)
termination_by delta
decreasing_by exact Nat.div_lt_self (by omega) (by omega)

/-- The bias behind a number, once there are `count` characters. -/
def adapt (delta count : Nat) (isFirst : Bool) : Nat :=
  let delta := if isFirst then delta / 700 else delta / 2
  let (delta, place) := scaled (delta + delta / count) 0
  place + 36 * delta / (delta + 38)

theorem threshold_pos (place bias : Nat) : 1 ≤ threshold place bias := by
  simp only [threshold]
  omega

def writeNumber (bias place n : Nat) : List Char :=
  let t := threshold place bias
  if n < t then [digitChar n]
  else digitChar (t + (n - t) % (36 - t)) :: writeNumber bias (place + 36) ((n - t) / (36 - t))
termination_by n
decreasing_by
  have ht := threshold_pos place bias
  have hd := Nat.div_le_self (n - threshold place bias) (36 - threshold place bias)
  omega

/-- Adds a number to `sum`, and says what follows it. -/
def readNumber? (bias place weight sum : Nat) : List Char → Option (Nat × List Char)
  | [] => none
  | c :: rest =>
    match digitValue? c with
    | none => none
    | some d =>
      let t := threshold place bias
      if d < t then some (sum + d * weight, rest)
      else readNumber? bias (place + 36) (weight * (36 - t)) (sum + d * weight) rest

/-- Puts the characters at their places. `code` is the last one, and `place` is behind it. -/
def insertAll? (bias code place : Nat) (text : List Char) : Nat → List Char → Option (List Char)
  | _, [] => some text
  | 0, _ :: _ => none
  | fuel + 1, s => do
    let (sum, rest) ← readNumber? bias 36 1 place s
    let count := text.length + 1
    let code := code + sum / count
    let bias := adapt (sum - place) count (place == 0)
    if code.isValidChar then
      insertAll? bias code (sum % count + 1)
        (text.take (sum % count) ++ [.ofNat code] ++ text.drop (sum % count)) fuel rest
    else none

def isBasic (c : Char) : Bool := c.toNat < 0x80

/-- Reads what `encode` writes. -/
def decode? (s : List Char) : Option (List Char) :=
  let numbers := (s.reverse.takeWhile (· ≠ '-')).reverse
  let basic := (s.take (s.length - numbers.length)).dropLast
  if basic.all isBasic then insertAll? 72 128 0 basic numbers.length numbers else none

/-- What has been written, and what the next number depends on. -/
structure Progress where
  text : List Char
  bias : Nat
  /-- The places passed over since the last number. -/
  delta : Nat
  count : Nat

/-- Passes over a character while those with the number `code` are written. -/
def Progress.pass (code basic : Nat) (p : Progress) (c : Char) : Progress :=
  if c.toNat < code then { p with delta := p.delta + 1 }
  else if c.toNat = code then
    ⟨p.text ++ writeNumber p.bias 36 p.delta, adapt p.delta (p.count + 1) (p.count == basic), 0,
      p.count + 1⟩
  else p

/-- Writes the characters with the given numbers, of which `last` is the one before them. -/
def writeAll (s : List Char) (basic last : Nat) : List Nat → Progress → List Char
  | [], p => p.text
  | code :: rest, p =>
    let p := s.foldl (Progress.pass code basic)
      { p with delta := p.delta + (code - last) * (p.count + 1) }
    writeAll s basic (code + 1) rest { p with delta := p.delta + 1 }

def encode (s : List Char) : List Char :=
  let basic := s.filter isBasic
  let codes := ((s.filter fun c => !isBasic c).map Char.toNat).eraseDups.mergeSort
  writeAll s basic.length 128 codes
    ⟨if basic.isEmpty then [] else basic ++ ['-'], 72, 0, basic.length⟩

end ChainFeed.Punycode
