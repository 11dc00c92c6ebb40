import ChainFeed.Bytes.Hex

/-!
# Percent signs

A byte is written as a percent sign and two digits where the character itself may not stand.
-/

namespace ChainFeed.Percent

/-- Reads every byte that is written in this way, and keeps all other characters. -/
def decode : List Char → List UInt8
  | [] => []
  | '%' :: high :: low :: rest =>
    match Hex.decode? [high, low] with
    | some bytes => bytes ++ decode rest
    | none => 37 :: decode (high :: low :: rest)
  | c :: rest => (String.singleton c).toUTF8.toList ++ decode rest

def encodeByte (b : UInt8) : List Char := '%' :: (Hex.encodeByte b).map Char.toUpper

def encode (refused : Char → Bool) (s : List Char) : List Char :=
  s.flatMap fun c =>
    if refused c then (String.singleton c).toUTF8.toList.flatMap encodeByte else [c]

/-- Controls, and what is not in ASCII. -/
def isControl (c : Char) : Bool := c.toNat < 0x20 || 0x7f ≤ c.toNat

def refusedInFragment (c : Char) : Bool := isControl c || [' ', '"', '<', '>', '\x60'].contains c

def refusedInPath (c : Char) : Bool :=
  refusedInFragment c || ['#', '?', '\x7b', '\x7d'].contains c

def refusedInQuery (c : Char) : Bool :=
  isControl c || [' ', '"', '#', '<', '>', '\''].contains c

end ChainFeed.Percent
