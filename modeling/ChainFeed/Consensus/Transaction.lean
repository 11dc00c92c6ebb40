import ChainFeed.Chain.Transaction
import ChainFeed.Consensus.CompactSize

/-!
# The consensus form of transactions

A transaction without witnesses has one form. A transaction with a witness has a second, longer
form, marked by an empty input list and a flag where the inputs would start; so has a transaction
without inputs, whose plain form would be taken for that mark. The id of a transaction hashes the
plain form.
-/

namespace ChainFeed

namespace Consensus

def encodeWord (w : UInt32) : List UInt8 := LittleEndian.encode 4 w.toNat

def readWord : Reader UInt32 := do
  pure (LittleEndian.decode (← Reader.bytes 4)).toUInt32

def readDigest : Reader Digest := do
  match Digest.ofBytes? (← Reader.bytes 32) with
  | some d => pure d
  | none => .fail .endOfData

/-- Bytes behind their count. -/
def encodeBlob (bytes : List UInt8) : List UInt8 := CompactSize.encode bytes.length ++ bytes

def readBlob : Reader (List UInt8) := do
  Reader.bytes (← CompactSize.reader)

/-- Elements behind their count. -/
def encodeVector {α : Type} (encode : α → List UInt8) (l : List α) : List UInt8 :=
  CompactSize.encode l.length ++ l.flatMap encode

def readVector {α : Type} (r : Reader α) : Reader (List α) := do
  r.times (← CompactSize.reader)

/-- The elements of one witness, `used` bytes of which have been read. A witness takes at most
`vectorLimit` bytes, and a size at the end of the 64-bit range is reported as that end. -/
def readWitnessElements (count used : Nat) : Nat → Reader (List (List UInt8))
  | 0 => pure []
  | left + 1 => do
    let size ← CompactSize.reader
    let needed := 4 * count + used + size + CompactSize.width size
    if 2 ^ 64 ≤ needed then .fail (.oversized (2 ^ 64 - 1))
    else if vectorLimit + 4 * count < needed then .fail (.oversized needed)
    else
      let element ← Reader.bytes size
      let rest ← readWitnessElements count (used + size + CompactSize.width size) left
      pure (element :: rest)

def readWitness : Reader (List (List UInt8)) := do
  let count ← CompactSize.reader
  if vectorLimit < count then .fail (.oversized count) else readWitnessElements count 0 count

end Consensus

open Consensus

namespace OutPoint

def encode (o : OutPoint) : List UInt8 := o.txid.bytes ++ encodeWord o.vout

def reader : Reader OutPoint := do
  let txid ← readDigest
  let vout ← readWord
  pure ⟨txid, vout⟩

end OutPoint

namespace TxIn

/-- The witness is written apart. -/
def encode (i : TxIn) : List UInt8 :=
  i.spends.encode ++ encodeBlob i.unlocking ++ encodeWord i.sequence

def reader : Reader TxIn := do
  let spends ← OutPoint.reader
  let unlocking ← readBlob
  let sequence ← readWord
  pure ⟨spends, unlocking, sequence, []⟩

def encodeWitness (i : TxIn) : List UInt8 := encodeVector encodeBlob i.witness

def readWitnesses : List TxIn → Reader (List TxIn)
  | [] => pure []
  | i :: rest => do
    let witness ← readWitness
    let rest ← readWitnesses rest
    pure ({ i with witness } :: rest)

end TxIn

namespace TxOut

def encode (o : TxOut) : List UInt8 := LittleEndian.encode 8 o.value.toNat ++ encodeBlob o.script

def reader : Reader TxOut := do
  let value := LittleEndian.decode (← Reader.bytes 8)
  let script ← readBlob
  pure ⟨value.toUInt64, script⟩

end TxOut

namespace Transaction

def needsMark (t : Transaction) : Bool :=
  t.inputs.isEmpty || t.inputs.any fun i => !i.witness.isEmpty

def encodePlain (t : Transaction) : List UInt8 :=
  encodeWord t.version.toUInt32 ++ encodeVector TxIn.encode t.inputs ++
    encodeVector TxOut.encode t.outputs ++ encodeWord t.lockTime

def encodeMarked (t : Transaction) : List UInt8 :=
  encodeWord t.version.toUInt32 ++ [0, 1] ++ encodeVector TxIn.encode t.inputs ++
    encodeVector TxOut.encode t.outputs ++ t.inputs.flatMap TxIn.encodeWitness ++
    encodeWord t.lockTime

def encode (t : Transaction) : List UInt8 :=
  if t.needsMark then t.encodeMarked else t.encodePlain

def txid (t : Transaction) : Txid := .doubleSha256 t.encodePlain

/-- What follows the mark and the flag. -/
def markedReader (version : UInt32) : Reader Transaction := do
  let inputs ← readVector TxIn.reader
  let outputs ← readVector TxOut.reader
  let inputs ← TxIn.readWitnesses inputs
  if !inputs.isEmpty && inputs.all fun i => i.witness.isEmpty then
    .fail .emptyWitnesses
  else
    let lockTime ← readWord
    pure ⟨version.toInt32, inputs, outputs, lockTime⟩

def reader : Reader Transaction := do
  let version ← readWord
  let inputs ← readVector TxIn.reader
  if inputs.isEmpty then
    let flag ← Reader.byte
    if flag = 1 then markedReader version else .fail (.unsupportedFlag flag)
  else
    let outputs ← readVector TxOut.reader
    let lockTime ← readWord
    pure ⟨version.toInt32, inputs, outputs, lockTime⟩

end Transaction

end ChainFeed
