/-!
# Text from any bytes

Bytes read as UTF-8, where whatever is no UTF-8 becomes a replacement character: one for each
longest piece that could have been the beginning of a character, and one for each byte that could
not.
-/

namespace ChainFeed.Text

def replacement : Char := '\ufffd'

def isContinuation (b : UInt8) : Bool := 0x80 ≤ b && b ≤ 0xbf

/-- The bounds of the second byte of a character, by its first byte. Longer forms of shorter
characters, surrogates and numbers beyond the last character are left out. -/
def secondByteBounds (first : UInt8) : UInt8 × UInt8 :=
  if first = 0xe0 then (0xa0, 0xbf)
  else if first = 0xed then (0x80, 0x9f)
  else if first = 0xf0 then (0x90, 0xbf)
  else if first = 0xf4 then (0x80, 0x8f)
  else (0x80, 0xbf)

/-- How many bytes follow a first byte. -/
def followers? (first : UInt8) : Option Nat :=
  if first < 0x80 then some 0
  else if 0xc2 ≤ first && first ≤ 0xdf then some 1
  else if 0xe0 ≤ first && first ≤ 0xef then some 2
  else if 0xf0 ≤ first && first ≤ 0xf4 then some 3
  else none

/-- The following bytes that fit, at most `count`. -/
def following (first : UInt8) (count : Nat) (rest : List UInt8) : List UInt8 :=
  match count, rest with
  | 0, _ => []
  | _, [] => []
  | count + 1, second :: rest =>
    let (least, greatest) := secondByteBounds first
    if least ≤ second && second ≤ greatest then
      second :: (rest.take count).takeWhile isContinuation
    else []

/-- The bits that a first byte gives to its character. -/
def leadBits (first : UInt8) : Nat → Nat
  | 0 => first.toNat
  | 1 => first.toNat % 32
  | 2 => first.toNat % 16
  | _ => first.toNat % 8

/-- The character at the front, and how many bytes it takes. -/
def lossyChar (first : UInt8) (rest : List UInt8) : Char × Nat :=
  match followers? first with
  | none => (replacement, 1)
  | some count =>
    let tail := following first count rest
    if tail.length = count then
      (Char.ofNat (tail.foldl (fun n b => 64 * n + b.toNat % 64) (leadBits first count)),
        count + 1)
    else (replacement, tail.length + 1)

def lossyChars : Nat → List UInt8 → List Char
  | 0, _ => []
  | _, [] => []
  | fuel + 1, first :: rest =>
    let (c, count) := lossyChar first rest
    c :: lossyChars fuel (rest.drop (count - 1))

def lossy (bytes : List UInt8) : String := String.ofList (lossyChars bytes.length bytes)

end ChainFeed.Text
