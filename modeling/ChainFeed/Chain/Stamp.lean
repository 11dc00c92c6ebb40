import ChainFeed.Hash.Digest

/-!
# Block stamps

A stamp is the height and the hash of a block. Heights are 32-bit words, and the word above the
greatest one does not exist: `Height.next?` is `none` there, so nothing wraps.
-/

namespace ChainFeed

abbrev Height := UInt32

abbrev BlockHash := Digest

abbrev Txid := Digest

def Height.next? (h : Height) : Option Height :=
  if h.toNat + 1 < UInt32.size then some (h + 1) else none

theorem Height.next?_eq_some_iff {h n : Height} : h.next? = some n ↔ n.toNat = h.toNat + 1 := by
  have hn := n.toNat_lt
  unfold next?
  split
  · next hlt =>
    have hs : (h + 1).toNat = h.toNat + 1 := by
      rw [UInt32.toNat_add]
      exact Nat.mod_eq_of_lt hlt
    simp only [Option.some.injEq]
    constructor
    · rintro rfl
      exact hs
    · intro he
      exact UInt32.toNat_inj.1 (hs.trans he.symm)
  · next hge =>
    simp only [reduceCtorEq, false_iff]
    have : UInt32.size = 2 ^ 32 := rfl
    omega

structure Stamp where
  height : Height
  hash : BlockHash
  deriving DecidableEq

namespace Stamp

instance : Inhabited Stamp := ⟨⟨0, .zero⟩⟩

def render (s : Stamp) : String := s.hash.render ++ "@" ++ toString s.height.toNat

instance : ToString Stamp := ⟨render⟩

/-- Whether a block at `next` sits directly on this stamp. -/
def isFollowedBy (s : Stamp) (next : Height) : Bool := s.height.next? = some next

/-- Whether `next` lies strictly above. Hashes play no part. -/
def isBelow (s next : Stamp) : Bool := s.height < next.height

theorem isFollowedBy_iff {s : Stamp} {next : Height} :
    s.isFollowedBy next = true ↔ next.toNat = s.height.toNat + 1 := by
  simp [isFollowedBy, Height.next?_eq_some_iff]

theorem isBelow_iff {s next : Stamp} :
    s.isBelow next = true ↔ s.height.toNat < next.height.toNat := by
  simp [isBelow, UInt32.lt_iff_toNat_lt]

end Stamp

end ChainFeed
