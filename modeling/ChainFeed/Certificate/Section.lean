import ChainFeed.Bytes.Base64
import ChainFeed.Data.Cut

/-!
# Sections of a text

Bytes stand in a text in sections, each between a boundary line that begins it and one that ends it,
in base 64. Text outside of the sections is passed over.
-/

namespace ChainFeed.Certificate

/-- The lines of a text. Each of the two characters that may end a line ends one. -/
def lines (text : List UInt8) : List (List UInt8) := cutAt (fun b => b == 10 || b == 13) text

def ascii (s : String) : List UInt8 := s.toList.map fun c => c.toNat.toUInt8

def beginMark : List UInt8 := ascii "-----BEGIN "

/-- The label of a boundary line that begins a section, if there are exactly five dashes behind it,
whatever blanks are between them. -/
def label? (line : List UInt8) : Option (List UInt8) :=
  let trailer := (line.reverse.takeWhile fun b => b == 45 || b == 32).reverse
  let blanks := trailer.takeWhile (· == 32)
  if trailer.count 45 = 5 then
    some ((line.take (line.length - trailer.length + blanks.length)).drop beginMark.length)
  else none

def endMark (label : List UInt8) : List UInt8 := ascii "-----END " ++ label ++ ascii "-----"

/-- The labels of the sections whose content is read. Others are passed over. -/
def knownLabels : List (List UInt8) :=
  ["CERTIFICATE", "CERTIFICATE REQUEST", "PUBLIC KEY", "RSA PRIVATE KEY", "PRIVATE KEY",
    "EC PRIVATE KEY", "X509 CRL", "ECHCONFIG"].map ascii

structure Section where
  label : List UInt8
  content : List UInt8

def isBlankByte (b : UInt8) : Bool := b == 32 || (9 ≤ b && b ≤ 13)

def decodeBody? (body : List UInt8) : Option (List UInt8) :=
  Base64.decode? ((body.filter fun b => !isBlankByte b).map fun b => Char.ofNat b.toNat)

/-- The sections of a text. There are none if one of them is broken. A section that begins before
the one in front of it has ended takes over what has been read. -/
def sections? : Option (List UInt8 × List UInt8) → List (List UInt8) → Option (List Section)
  | none, [] => some []
  | some _, [] => none
  | current, line :: rest =>
    if beginMark.isPrefixOf line then
      match label? line with
      | none => none
      | some label => sections? (some (label, (current.map Prod.snd).getD [])) rest
    else
      match current with
      | none => sections? none rest
      | some (label, body) =>
        if (endMark label).isPrefixOf line then
          if label ∈ knownLabels then do
            let content ← decodeBody? body
            let more ← sections? none rest
            return ⟨label, content⟩ :: more
          else sections? none rest
        else sections? (some (label, body ++ line)) rest

end ChainFeed.Certificate
