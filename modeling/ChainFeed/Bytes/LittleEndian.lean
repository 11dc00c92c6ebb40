/-!
# Little-endian numbers

A number as a given count of bytes, low byte first.
-/

namespace ChainFeed.LittleEndian

/-- The low `8 * width` bits of `n`. -/
def encode : Nat → Nat → List UInt8
  | 0, _ => []
  | width + 1, n => n.toUInt8 :: encode width (n / 256)

def decode : List UInt8 → Nat
  | [] => 0
  | b :: rest => b.toNat + 256 * decode rest

@[simp] theorem length_encode (width n : Nat) : (encode width n).length = width := by
  induction width generalizing n with
  | zero => rfl
  | succ width ih => simp [encode, ih]

theorem decode_encode {width n : Nat} (h : n < Nat.pow 256 width) :
    decode (encode width n) = n := by
  induction width generalizing n with
  | zero =>
    have hn : n < 1 := h
    simp only [encode, decode]
    omega
  | succ width ih =>
    have hd : n / 256 < Nat.pow 256 width := (Nat.div_lt_iff_lt_mul (by omega)).2 h
    simp [encode, decode, ih hd]
    omega

theorem decode_lt (bytes : List UInt8) : decode bytes < Nat.pow 256 bytes.length := by
  induction bytes with
  | nil => exact Nat.one_pos
  | cons b bytes ih =>
    have hb : b.toNat < 256 := b.toNat_lt
    change b.toNat + 256 * decode bytes < Nat.pow 256 bytes.length * 256
    omega

theorem encode_decode (bytes : List UInt8) : encode bytes.length (decode bytes) = bytes := by
  induction bytes with
  | nil => rfl
  | cons b bytes ih =>
    have hb : b.toNat < 256 := b.toNat_lt
    have hdiv : (b.toNat + 256 * decode bytes) / 256 = decode bytes := by omega
    have hmod : (b.toNat + 256 * decode bytes).toUInt8 = b := by
      apply UInt8.toNat_inj.1
      simp
    simp [encode, decode, hdiv, hmod, ih]

end ChainFeed.LittleEndian
