import ChainFeed.Address.Base58
import ChainFeed.Address.Witness
import ChainFeed.Chain.Network

/-!
# Addresses

An address stands for an output script on some of the networks. Addresses of key hashes and script
hashes are written in base 58 and those of witness programs in Bech32, where a text that can be read
as a witness program is never read in base 58.
-/

namespace ChainFeed

structure ShortHash where
  bytes : List UInt8
  length_bytes : bytes.length = 20
  deriving DecidableEq

/-- Base 58 knows the main network from all others, and not those from each other. -/
inductive Realm where
  | main
  | test
  deriving DecidableEq

/-- The human-readable parts in use. -/
inductive Hrp where
  | bc
  | tb
  | bcrt
  deriving DecidableEq

inductive Address where
  | keyHash (realm : Realm) (hash : ShortHash)
  | scriptHash (realm : Realm) (hash : ShortHash)
  | witness (hrp : Hrp) (program : WitnessProgram)
  deriving DecidableEq

namespace Realm

def ofNetwork (n : Network) : Realm := if n = .bitcoin then main else test

end Realm

namespace Hrp

def text : Hrp → List Char
  | bc => ['b', 'c']
  | tb => ['t', 'b']
  | bcrt => ['b', 'c', 'r', 't']

def ofText? (text : List Char) : Option Hrp := [bc, tb, bcrt].find? fun h => h.text = text

def ofNetwork : Network → Hrp
  | .bitcoin => bc
  | .testnet | .testnet4 | .signet => tb
  | .regtest => bcrt

@[simp] theorem ofText?_text (h : Hrp) : ofText? h.text = some h := by cases h <;> decide

end Hrp

namespace Address

inductive Fault where
  | unknownHrp
  | tooLong
  | notBase58
  | wrongLength
  | unknownVersion
  /-- It is an address of another network. -/
  | otherNetwork
  deriving DecidableEq

def Fault.message : Fault → String
  | unknownHrp => "tried to parse an unknown hrp"
  | tooLong => "legacy address base58 string"
  | notBase58 => "base58 error"
  | wrongLength => "legacy address base58 data"
  | unknownVersion => "legacy address base58 prefix"
  | otherNetwork => "validation error"

def servesNetwork (n : Network) : Address → Bool
  | keyHash realm _ => realm = .ofNetwork n
  | scriptHash realm _ => realm = .ofNetwork n
  | witness hrp _ => hrp = .ofNetwork n

def script : Address → Script
  | keyHash _ hash => [0x76, 0xa9, 0x14] ++ hash.bytes ++ [0x88, 0xac]
  | scriptHash _ hash => [0xa9, 0x14] ++ hash.bytes ++ [0x87]
  | witness _ program => program.script

/-- The byte in front of a hash. -/
def versionByte : Realm → Bool → UInt8
  | .main, false => 0
  | .main, true => 5
  | .test, false => 111
  | .test, true => 196

def text : Address → List Char
  | keyHash realm hash => Base58.encodeChecked (versionByte realm false :: hash.bytes)
  | scriptHash realm hash => Base58.encodeChecked (versionByte realm true :: hash.bytes)
  | witness hrp program => program.encode hrp.text

def render (a : Address) : String := String.ofList a.text

def ofPayload : List UInt8 → Except Fault Address
  | [] => .error .wrongLength
  | version :: bytes =>
    if h : bytes.length = 20 then
      if version = versionByte .main false then .ok (.keyHash .main ⟨bytes, h⟩)
      else if version = versionByte .main true then .ok (.scriptHash .main ⟨bytes, h⟩)
      else if version = versionByte .test false then .ok (.keyHash .test ⟨bytes, h⟩)
      else if version = versionByte .test true then .ok (.scriptHash .test ⟨bytes, h⟩)
      else .error .unknownVersion
    else .error .wrongLength

def maxBase58Length : Nat := 50

/-- Reads an address of any network. -/
def ofText (text : List Char) : Except Fault Address :=
  match WitnessProgram.decode? text with
  | some (hrp, program) =>
    match Hrp.ofText? hrp with
    | some hrp => .ok (.witness hrp program)
    | none => .error .unknownHrp
  | none =>
    if maxBase58Length < (String.ofList text).utf8ByteSize then .error .tooLong
    else
      match Base58.decodeChecked? text with
      | none => .error .notBase58
      | some payload => ofPayload payload

/-- Reads an address that serves a network. -/
def ofTextOn (n : Network) (text : List Char) : Except Fault Address := do
  let a ← ofText text
  if a.servesNetwork n then .ok a else .error .otherNetwork

def shortHash? (bytes : List UInt8) : Option ShortHash :=
  if h : bytes.length = 20 then some ⟨bytes, h⟩ else none

/-- The address of a script, if it is of a form that has one. -/
def ofScript? (n : Network) (script : Script) : Option Address :=
  match script with
  | 0x76 :: 0xa9 :: 0x14 :: rest =>
    if rest.drop 20 = [0x88, 0xac] then (shortHash? (rest.take 20)).map (.keyHash (.ofNetwork n))
    else none
  | 0xa9 :: 0x14 :: rest =>
    if rest.drop 20 = [0x87] then (shortHash? (rest.take 20)).map (.scriptHash (.ofNetwork n))
    else none
  | _ => (WitnessProgram.ofScript? script).map (.witness (.ofNetwork n))

end Address

end ChainFeed
