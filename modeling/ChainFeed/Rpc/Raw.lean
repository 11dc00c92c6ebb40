import ChainFeed.Bytes.Hex
import ChainFeed.Chain.Block
import ChainFeed.Text.Quoted

/-!
# Raw blocks and transactions

Values in their consensus form as hexadecimal text, one value to a text.
-/

namespace ChainFeed

def Hex.Fault.message : Hex.Fault → String
  | .oddLength => "Odd number of digits"
  | .invalidDigit byte position =>
    "Invalid character " ++ Text.quotedChar (Char.ofNat byte.toNat) ++ " at position " ++
      toString position

namespace Rpc

inductive RawFault where
  | hex (fault : Hex.Fault)
  | consensus (fault : Consensus.Fault)
  deriving DecidableEq

def RawFault.message : RawFault → String
  | hex fault => fault.message
  | consensus fault => fault.message

def readRaw {α : Type} (r : Consensus.Reader α) (text : String) : Except RawFault α :=
  match Hex.decode text.toList with
  | .error fault => .error (.hex fault)
  | .ok bytes =>
    match r.whole bytes with
    | .error fault => .error (.consensus fault)
    | .ok a => .ok a

end Rpc

end ChainFeed
