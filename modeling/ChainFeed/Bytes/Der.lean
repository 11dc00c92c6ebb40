/-!
# Tagged values

A value is written as a tag, a length and its content, and may hold further values. Lengths are
written in the shortest form, and no value is longer than two bytes can say.
-/

namespace ChainFeed.Der

abbrev Reader := StateT (List UInt8) Option

def byte : Reader UInt8 := fun s =>
  match s with
  | [] => none
  | b :: rest => some (b, rest)

def bytes (count : Nat) : Reader (List UInt8) := fun s =>
  if s.length < count then none else some (s.take count, s.drop count)

def atEnd : Reader Bool := fun s => some (s.isEmpty, s)

def peek? : Reader (Option UInt8) := fun s => some (s.head?, s)

def maxLength : Nat := 0xffff

def length : Reader Nat := do
  let first ← byte
  if first < 0x80 then return first.toNat
  else if first = 0x81 then
    let n := (← byte).toNat
    if 0x80 ≤ n then return n else failure
  else if first = 0x82 then
    let high := (← byte).toNat
    let low := (← byte).toNat
    if 0 < high && 256 * high + low < maxLength then return 256 * high + low else failure
  else failure

/-- The content of a value with the given tag. -/
def value (tag : UInt8) : Reader (List UInt8) := do
  if (← byte) = tag then bytes (← length) else failure

def readAll? {α : Type} (r : Reader α) (s : List UInt8) : Option α :=
  match r s with
  | some (a, []) => some a
  | _ => none

def nested {α : Type} (tag : UInt8) (r : Reader α) : Reader α := do
  match readAll? r (← value tag) with
  | some a => return a
  | none => failure

def integerTag : UInt8 := 0x02
def bitsTag : UInt8 := 0x03
def octetsTag : UInt8 := 0x04
def boolTag : UInt8 := 0x01
def nameTag : UInt8 := 0x06
def sequenceTag : UInt8 := 0x30

/-- The tag of a part by its number, where the parts of a value may be missing. -/
def partTag (n : UInt8) : UInt8 := 0xa0 + n

def sequence : Reader (List UInt8) := value sequenceTag

/-- A flag that is false where it is missing. -/
def flag : Reader Bool := do
  if (← peek?) = some boolTag then
    match ← value boolTag with
    | [0xff] => return true
    | [0x00] => return false
    | _ => failure
  else return false

def bits : Reader (List UInt8) := do
  match ← value bitsTag with
  | 0 :: rest => return rest
  | _ => failure

end ChainFeed.Der
