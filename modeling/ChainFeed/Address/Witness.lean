import ChainFeed.Address.Bech32
import ChainFeed.Data.Bits
import ChainFeed.Chain.Transaction

/-!
# Witness programs

A witness program is a version and some bytes. As text it stands behind a human-readable part, in
Bech32 for version zero and in its variant Bech32m above. The bytes are regrouped into symbols, and
the last symbol is filled up with zero bits.
-/

namespace ChainFeed

/-- Programs of version zero have 20 or 32 bytes, the others 2 to 40. -/
def isWitnessLength (version length : Nat) : Bool :=
  if version = 0 then length = 20 || length = 32
  else version ≤ 16 && 2 ≤ length && length ≤ 40

structure WitnessProgram where
  version : Nat
  program : List UInt8
  valid : isWitnessLength version program.length = true
  deriving DecidableEq

namespace WitnessProgram

def ofParts? (version : Nat) (program : List UInt8) : Option WitnessProgram :=
  if h : isWitnessLength version program.length = true then some ⟨version, program, h⟩ else none

def variant (version : Nat) : Bech32.Variant := if version = 0 then .bech32 else .bech32m

/-- The opcode that pushes a version. -/
def versionOpcode (version : Nat) : UInt8 := (if version = 0 then 0 else 0x50 + version).toUInt8

def script (w : WitnessProgram) : Script :=
  versionOpcode w.version :: w.program.length.toUInt8 :: w.program

/-- The program that a script is, if it is one. -/
def ofScript? : Script → Option WitnessProgram
  | opcode :: length :: program =>
    if length.toNat ≠ program.length then none
    else if opcode = 0 then ofParts? 0 program
    else if 0x51 ≤ opcode ∧ opcode ≤ 0x60 then ofParts? (opcode.toNat - 0x50) program
    else none
  | _ => none

/-- Bytes as symbols of five bits. -/
def toSymbols (bytes : List UInt8) : List Bech32.Symbol :=
  let bits := bytes.flatMap fun b => Bits.ofNat 8 b.toNat
  let count := (bits.length + 4) / 5
  (Bits.groups 5 count (bits ++ List.replicate (5 * count - bits.length) false)).map
    (BitVec.ofNat 5)

/-- Symbols of five bits as bytes. At most four bits are left over, all of them zero. -/
def ofSymbols? (symbols : List Bech32.Symbol) : Option (List UInt8) :=
  let bits := symbols.flatMap fun s => Bits.ofNat 5 s.toNat
  let count := bits.length / 8
  let left := bits.drop (8 * count)
  if left.length ≤ 4 && left.all (· == false) then
    some ((Bits.groups 8 count bits).map Nat.toUInt8)
  else none

def encode (hrp : List Char) (w : WitnessProgram) : List Char :=
  Bech32.encode (variant w.version) hrp (BitVec.ofNat 5 w.version :: toSymbols w.program)

def maxLength : Nat := 90

def decode? (text : List Char) : Option (List Char × WitnessProgram) := do
  if maxLength < text.length then none
  let (hrp, symbols) ← Bech32.parts? text
  match symbols with
  | [] => none
  | first :: _ =>
    match ← Bech32.unchecked? (variant first.toNat) hrp symbols with
    | [] => none
    | version :: data =>
      let program ← ofSymbols? data
      let w ← ofParts? version.toNat program
      return (hrp, w)

end WitnessProgram

end ChainFeed
