/-!
# Decimal text

Unsigned numbers of 64 bits: an optional plus sign and at least one digit. The first fault from
the left is the one that is told.
-/

namespace ChainFeed.Text

inductive DecimalFault where
  | empty
  | invalidDigit
  | overflow
  deriving DecidableEq

def DecimalFault.message : DecimalFault → String
  | empty => "cannot parse integer from empty string"
  | invalidDigit => "invalid digit found in string"
  | overflow => "number too large to fit in target type"

def readDigits (value : Nat) : List Char → Except DecimalFault Nat
  | [] => .ok value
  | c :: rest =>
    if '0' ≤ c ∧ c ≤ '9' then
      let next := 10 * value + (c.toNat - '0'.toNat)
      if next < UInt64.size then readDigits next rest else .error .overflow
    else .error .invalidDigit

def readUnsigned (s : String) : Except DecimalFault UInt64 :=
  match s.toList with
  | [] => .error .empty
  | ['+'] => .error .invalidDigit
  | '+' :: digits => (readDigits 0 digits).map Nat.toUInt64
  | digits => (readDigits 0 digits).map Nat.toUInt64

end ChainFeed.Text
