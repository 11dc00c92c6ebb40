/-!
# Bech32

A text of a human-readable part, a separator and symbols of five bits. The last six symbols are a
checksum: the whole text, taken as a polynomial, leaves a remainder that tells the two variants of
the code apart. A text is all in lower or all in upper case.
-/

namespace ChainFeed.Bech32

abbrev Symbol := BitVec 5

/-- Which remainder the text leaves. -/
inductive Variant where
  | bech32
  | bech32m
  deriving DecidableEq

def Variant.remainder : Variant → BitVec 30
  | bech32 => 1
  | bech32m => 0x2bc830a3

def alphabet : List Char := "qpzry9x8gf2tvdw0s3jn54khce6mua7l".toList

def symbolChar (s : Symbol) : Char := alphabet.getD s.toNat 'q'

/-- Reads either case. -/
def symbol? (c : Char) : Option Symbol := (alphabet.idxOf? c.toLower).map (BitVec.ofNat 5)

/-- What a symbol that is shifted out above leaves behind. -/
def reduction (s : Symbol) : BitVec 30 :=
  (if s.getLsbD 0 then 0x3b6a57b2 else 0) ^^^ (if s.getLsbD 1 then 0x26508e6d else 0) ^^^
    (if s.getLsbD 2 then 0x1ea119fa else 0) ^^^ (if s.getLsbD 3 then 0x3d4233dd else 0) ^^^
    (if s.getLsbD 4 then 0x2a1462b3 else 0)

/-- Moves the remainder up by one symbol. -/
def shift (r : BitVec 30) : BitVec 30 := r <<< 5 ^^^ reduction (r.extractLsb' 25 5)

def absorb (r : BitVec 30) (s : Symbol) : BitVec 30 := shift r ^^^ s.setWidth 30

def remainder (symbols : List Symbol) : BitVec 30 := symbols.foldl absorb 1

/-- The human-readable part as it enters the remainder: the high halves of its characters, a zero,
and the low halves. -/
def expand (hrp : List Char) : List Symbol :=
  (hrp.map fun c => BitVec.ofNat 5 (c.toNat / 32)) ++ [0] ++
    hrp.map fun c => BitVec.ofNat 5 (c.toNat % 32)

def split (r : BitVec 30) : List Symbol :=
  [r.extractLsb' 25 5, r.extractLsb' 20 5, r.extractLsb' 15 5, r.extractLsb' 10 5,
    r.extractLsb' 5 5, r.extractLsb' 0 5]

def checksum (v : Variant) (hrp : List Char) (data : List Symbol) : List Symbol :=
  split (remainder (expand hrp ++ data ++ List.replicate 6 0) ^^^ v.remainder)

def encode (v : Variant) (hrp : List Char) (data : List Symbol) : List Char :=
  hrp ++ '1' :: (data ++ checksum v hrp data).map symbolChar

def isMixedCase (text : List Char) : Bool := text.any Char.isUpper && text.any Char.isLower

/-- The text in front of the last separator, and what follows it. -/
def cut? (text : List Char) : Option (List Char × List Char) :=
  match text.reverse.dropWhile (· ≠ '1') with
  | [] => none
  | _ :: front => some (front.reverse, (text.reverse.takeWhile (· ≠ '1')).reverse)

/-- A human-readable part has 1 to 83 visible characters. -/
def isHrp (hrp : List Char) : Bool :=
  !hrp.isEmpty && hrp.length ≤ 83 && hrp.all fun c => 33 ≤ c.toNat && c.toNat ≤ 126

/-- The human-readable part in lower case and the symbols, checksum included. -/
def parts? (text : List Char) : Option (List Char × List Symbol) := do
  if isMixedCase text then none
  let (hrp, rest) ← cut? text
  if !isHrp hrp then none
  let symbols ← rest.mapM symbol?
  return (hrp.map Char.toLower, symbols)

/-- The symbols in front of a checksum of the variant `v`. -/
def unchecked? (v : Variant) (hrp : List Char) (symbols : List Symbol) : Option (List Symbol) :=
  if 6 ≤ symbols.length && remainder (expand hrp ++ symbols) = v.remainder then
    some (symbols.take (symbols.length - 6))
  else none

theorem symbol?_symbolChar : ∀ s : Symbol, symbol? (symbolChar s) = some s := by decide

theorem symbol?_toUpper_symbolChar : ∀ s : Symbol, symbol? (symbolChar s).toUpper = some s := by
  decide

theorem symbolChar_ne_separator : ∀ s : Symbol, symbolChar s ≠ '1' := by decide

end ChainFeed.Bech32
