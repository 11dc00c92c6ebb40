/-!
# Hexadecimal text

Two digits per byte, high half first, written in lower case and read in either case. `decode?` reads
exactly the texts that `encode` writes, up to case; `fault` says what is wrong with any other text.
-/

namespace ChainFeed.Hex

inductive Fault where
  | oddLength
  | invalidDigit (byte : UInt8) (position : Nat)
  deriving DecidableEq

def digitValue? (c : Char) : Option Nat :=
  if '0' ≤ c ∧ c ≤ '9' then some (c.toNat - '0'.toNat)
  else if 'a' ≤ c ∧ c ≤ 'f' then some (c.toNat - 'a'.toNat + 10)
  else if 'A' ≤ c ∧ c ≤ 'F' then some (c.toNat - 'A'.toNat + 10)
  else none

def encodeByte (b : UInt8) : List Char :=
  [Nat.digitChar (b.toNat / 16), Nat.digitChar (b.toNat % 16)]

def encode (bytes : List UInt8) : List Char := bytes.flatMap encodeByte

def decode? : List Char → Option (List UInt8)
  | [] => some []
  | [_] => none
  | c :: d :: rest =>
    match digitValue? c, digitValue? d, decode? rest with
    | some h, some l, some bytes => some ((16 * h + l).toUInt8 :: bytes)
    | _, _, _ => none

/-- The first character that is no digit, by its first byte in UTF-8 and that byte's position. -/
def firstInvalid? (position : Nat) : List Char → Option (UInt8 × Nat)
  | [] => none
  | c :: rest =>
    if (digitValue? c).isSome then firstInvalid? (position + 1) rest
    else ((String.singleton c).toUTF8.data[0]?).map (·, position)

/-- What is wrong with a text that `decode?` refuses: its length in bytes comes first. -/
def fault (text : List Char) : Fault :=
  if (String.ofList text).utf8ByteSize % 2 = 1 then .oddLength
  else match firstInvalid? 0 text with
    | some (byte, position) => .invalidDigit byte position
    | none => .oddLength

def decode (text : List Char) : Except Fault (List UInt8) :=
  match decode? text with
  | some bytes => .ok bytes
  | none => .error (fault text)

def render (bytes : List UInt8) : String := String.ofList (encode bytes)

@[simp] theorem encode_nil : encode [] = [] := rfl

@[simp] theorem encode_cons (b : UInt8) (bytes : List UInt8) :
    encode (b :: bytes) = encodeByte b ++ encode bytes := rfl

theorem digitValue?_digitChar : ∀ n < 16, digitValue? (Nat.digitChar n) = some n := by decide

theorem decode?_encode (bytes : List UInt8) : decode? (encode bytes) = some bytes := by
  induction bytes with
  | nil => rfl
  | cons b bytes ih =>
    have hb : b.toNat < 256 := b.toNat_lt
    have h : 16 * (b.toNat / 16) + b.toNat % 16 = b.toNat := Nat.div_add_mod _ _
    simp [encodeByte, decode?, ih, digitValue?_digitChar _ (by omega : b.toNat / 16 < 16),
      digitValue?_digitChar _ (by omega : b.toNat % 16 < 16), h]

end ChainFeed.Hex
