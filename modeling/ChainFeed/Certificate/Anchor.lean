import ChainFeed.Bytes.Der
import ChainFeed.Certificate.Section

/-!
# Trusted certificates

A certificate is a sequence of a body, an algorithm and a signature. One that is trusted from the
outset is not verified: it only has to have the form of a certificate of the third version, with
extensions, or of the first, without.
-/

namespace ChainFeed.Certificate

structure Envelope where
  body : List UInt8
  algorithm : List UInt8

def envelope : Der.Reader Envelope :=
  Der.nested Der.sequenceTag do
    let body ← Der.sequence
    let algorithm ← Der.sequence
    let _ ← Der.bits
    return ⟨body, algorithm⟩

/-- The standard extensions that are looked at, by the last byte of their names. -/
def knownExtensions : List UInt8 := [15, 17, 19, 30, 31, 37]

/-- The use of a key, whose value is the only one that is no sequence. -/
def keyUsage : UInt8 := 15

def extensionKind? (name : List UInt8) : Option UInt8 :=
  match name with
  | [0x55, 0x1d, kind] => if kind ∈ knownExtensions then some kind else none
  | _ => none

/-- An extension: its kind, if it is known. Whether it is critical does not matter here. -/
def extension : Der.Reader (Option UInt8) :=
  Der.nested Der.sequenceTag do
    let name ← Der.value Der.nameTag
    let _ ← Der.flag
    let value ← Der.value Der.octetsTag
    match extensionKind? name with
    | none => return none
    | some kind =>
      if kind = keyUsage || (Der.readAll? Der.sequence value).isSome then return some kind
      else failure

def extensions (known : List UInt8) : Nat → Der.Reader Unit
  | 0 => return
  | fuel + 1 => do
    if ← Der.atEnd then return
    match ← extension with
    | none => extensions known fuel
    | some kind => if kind ∈ known then failure else extensions (kind :: known) fuel

/-- The number of a certificate is not looked at. -/
def serialNumber : Der.Reader (List UInt8) := Der.value Der.integerTag

def names : Der.Reader Unit := do
  let _ ← Der.sequence
  let _ ← Der.sequence
  let _ ← Der.sequence
  let _ ← Der.sequence

def firstVersion : Der.Reader Unit := do
  let _ ← serialNumber
  let _ ← Der.sequence
  names

/-- The number of the third version, in its part. -/
def thirdVersionMark : List UInt8 := [Der.integerTag, 1, 2]

/-- The body of a certificate of the third version behind its mark. -/
def thirdVersion (algorithm : List UInt8) : Der.Reader Unit := do
  let _ ← serialNumber
  if (← Der.sequence) ≠ algorithm then failure
  names
  if ← Der.atEnd then return
  Der.nested (Der.partTag 3) do
    Der.nested Der.sequenceTag fun s => extensions [] s.length s

def isBody (algorithm body : List UInt8) : Bool :=
  match Der.value (Der.partTag 0) body with
  | some (mark, rest) =>
    mark = thirdVersionMark && (Der.readAll? (thirdVersion algorithm) rest).isSome
  | none => (Der.readAll? firstVersion body).isSome

/-- Whether bytes are a certificate that can be trusted. -/
def isAnchor (content : List UInt8) : Bool :=
  match Der.readAll? envelope content with
  | some e => isBody e.algorithm e.body
  | none => false

/-- Whether every certificate that a text holds can be trusted. A text without any can. -/
def areUsable (text : List UInt8) : Bool :=
  match sections? none (lines text) with
  | none => false
  | some sections =>
    sections.all fun s => s.label != ascii "CERTIFICATE" || isAnchor s.content

end ChainFeed.Certificate
