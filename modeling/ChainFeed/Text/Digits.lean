import ChainFeed.Bytes.Hex
import ChainFeed.Data.Radix

/-!
# Digits in text

The number that a row of digits stands for, in a base of at most sixteen.
-/

namespace ChainFeed.Text

def numberOf (base : Nat) (digits : List Char) : Nat :=
  Radix.ofDigits base (digits.map fun c => (Hex.digitValue? c).getD 0)

end ChainFeed.Text
