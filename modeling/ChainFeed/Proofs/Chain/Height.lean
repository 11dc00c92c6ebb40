import ChainFeed.Proofs.Client.Applying
import ChainFeed.Walk
import Mathlib.Logic.ExistsUnique

/-!
# Where a height lies

Seen from a stamp, a height is the next one, lies further ahead, or not above at all. The check of
an incoming block, the test for a gap and the plan of a walk each find this out in words of 32 bits,
with another way around the greatest word. All of them agree with the natural numbers.
-/

namespace ChainFeed

namespace Height

/-- The height above. The greatest one has none and stays. -/
def nextOrGreatest (h : Height) : Height := h.next?.getD h

/-- The height below. The least one has none and stays. -/
def previousOrLeast (h : Height) : Height := if h = 0 then 0 else h - 1

theorem nextOrGreatest_lt_iff {h t : Height} : h.nextOrGreatest < t ↔ h.toNat + 1 < t.toNat := by
  rw [UInt32.lt_iff_toNat_lt, nextOrGreatest]
  cases hnext : h.next? with
  | some next => rw [Option.getD_some, next?_eq_some_iff.1 hnext]
  | none =>
    -- there is no height above the greatest one, by either reading
    have hsize : UInt32.size = 2 ^ 32 := rfl
    have ht : t.toNat < 2 ^ 32 := t.toNat_lt
    have hgreatest : ¬ h.toNat + 1 < UInt32.size := by
      intro hlt
      rw [next?, if_pos hlt] at hnext
      cases hnext
    rw [Option.getD_none]
    omega

theorem previousOrLeast_eq {h : Height} (hpos : 0 < h.toNat) : h.previousOrLeast = h - 1 := by
  refine if_neg ?_
  rintro rfl
  exact absurd hpos (Nat.lt_irrefl 0)

end Height

/-- Where a height lies, seen from a stamp. -/
inductive Place where
  | next
  | ahead
  | behind

/-- What the check of an incoming height finds: it is accepted, refused as a gap ahead, or refused
otherwise. -/
def Stamp.Finds (s : Stamp) (incoming : Height) : Place → Prop
  | .next => s.requireNext incoming = .ok ()
  | .ahead => ∃ e, s.requireNext incoming = .error e ∧ e.isForwardGap = true
  | .behind => ∃ e, s.requireNext incoming = .error e ∧ e.isForwardGap = false

theorem Error.isForwardGap_heightGap (best incoming : Height) :
    (heightGap best incoming).isForwardGap = decide (best.nextOrGreatest < incoming) := by
  simp only [isForwardGap, Height.nextOrGreatest_lt_iff]

namespace Stamp

variable {s : Stamp} {incoming : Height}

theorem requireNext_eq_ok_iff : s.requireNext incoming = .ok () ↔ s.Precedes incoming := by
  refine ⟨fun h => ?_, requireNext_of_precedes⟩
  by_contra hnot
  rw [requireNext_of_not_precedes hnot] at h
  cases h

theorem requireNext_eq_error_iff {e : Error} : s.requireNext incoming = .error e ↔
    ¬ s.Precedes incoming ∧ e = .heightGap s.height incoming := by
  by_cases h : s.Precedes incoming
  · simp [requireNext_of_precedes h, h]
  · simp [requireNext_of_not_precedes h, h, eq_comm]

theorem finds_next_iff : s.Finds incoming .next ↔ incoming.toNat = s.height.toNat + 1 :=
  requireNext_eq_ok_iff

theorem finds_ahead_iff : s.Finds incoming .ahead ↔ s.height.toNat + 1 < incoming.toNat := by
  simp only [Finds, requireNext_eq_error_iff, Precedes, and_assoc, exists_eq_left,
    exists_and_left, Error.isForwardGap, decide_eq_true_eq]
  omega

theorem finds_behind_iff : s.Finds incoming .behind ↔ incoming.toNat ≤ s.height.toNat := by
  simp only [Finds, requireNext_eq_error_iff, Precedes, and_assoc, exists_eq_left,
    exists_and_left, Error.isForwardGap, decide_eq_false_iff_not]
  omega

theorem Finds.unique {p q : Place} (hp : s.Finds incoming p) (hq : s.Finds incoming q) :
    p = q := by
  cases p <;> cases q <;>
    simp only [finds_next_iff, finds_ahead_iff, finds_behind_iff] at hp hq <;>
    first | rfl | omega

theorem existsUnique_finds (s : Stamp) (incoming : Height) : ∃! p, s.Finds incoming p := by
  have hfound : ∃ p, s.Finds incoming p := by
    obtain hlt | heq | hgt := Nat.lt_trichotomy incoming.toNat (s.height.toNat + 1)
    · exact ⟨.behind, finds_behind_iff.2 (Nat.lt_succ_iff.1 hlt)⟩
    · exact ⟨.next, finds_next_iff.2 heq⟩
    · exact ⟨.ahead, finds_ahead_iff.2 hgt⟩
  obtain ⟨p, hp⟩ := hfound
  exact ⟨p, hp, fun q hq => hq.unique hp⟩

end Stamp

namespace Walk

variable {watermark best : Stamp}

theorem plan_self (s : Stamp) : plan s s = .upToDate := if_pos rfl

theorem plan_of_le (hne : best ≠ watermark) (hle : best.height.toNat ≤ watermark.height.toNat) :
    plan watermark best = .diverged watermark best := by
  rw [plan, if_neg hne, if_pos (UInt32.le_iff_toNat_le.2 hle)]

theorem plan_of_lt (hlt : watermark.height.toNat < best.height.toNat) :
    plan watermark best = .forward (watermark.height + 1) best.height := by
  rw [plan, if_neg, if_neg]
  · rw [UInt32.le_iff_toNat_le]
    omega
  · rintro rfl
    exact Nat.lt_irrefl _ hlt

/-- A plan is one of the three, by the order of the heights over the naturals. -/
theorem plan_cases (watermark best : Stamp) :
    (best = watermark ∧ plan watermark best = .upToDate) ∨
    (best ≠ watermark ∧ best.height.toNat ≤ watermark.height.toNat ∧
      plan watermark best = .diverged watermark best) ∨
    (watermark.height.toNat < best.height.toNat ∧
      (watermark.height + 1).toNat = watermark.height.toNat + 1 ∧
      plan watermark best = .forward (watermark.height + 1) best.height) := by
  by_cases heq : best = watermark
  · subst heq
    exact .inl ⟨rfl, plan_self best⟩
  · by_cases hle : best.height.toNat ≤ watermark.height.toNat
    · exact .inr (.inl ⟨heq, hle, plan_of_le heq hle⟩)
    · have hlt : watermark.height.toNat < best.height.toNat := by omega
      exact .inr (.inr ⟨hlt, Height.toNat_add_one hlt, plan_of_lt hlt⟩)

theorem plan_eq_upToDate_iff : plan watermark best = .upToDate ↔ best = watermark := by
  obtain ⟨heq, hplan⟩ | ⟨hne, _, hplan⟩ | ⟨hlt, _, hplan⟩ := plan_cases watermark best
  · simp [heq, plan_self]
  · simp [hne, hplan]
  · simp only [hplan, reduceCtorEq, false_iff]
    rintro rfl
    exact Nat.lt_irrefl _ hlt

theorem plan_eq_diverged_iff : plan watermark best = .diverged watermark best ↔
    best ≠ watermark ∧ best.height.toNat ≤ watermark.height.toNat := by
  obtain ⟨heq, hplan⟩ | ⟨hne, hle, hplan⟩ | ⟨hlt, _, hplan⟩ := plan_cases watermark best
  · simp [heq, plan_self]
  · simp [hne, hle, hplan]
  · simp only [hplan, reduceCtorEq, false_iff, not_and]
    omega

theorem plan_eq_forward_iff : (∃ first, plan watermark best = .forward first best.height ∧
    first.toNat = watermark.height.toNat + 1) ↔ watermark.height.toNat < best.height.toNat := by
  obtain ⟨heq, hplan⟩ | ⟨hne, hle, hplan⟩ | ⟨hlt, hfirst, hplan⟩ := plan_cases watermark best
  · simp [heq, plan_self]
  · simp only [hplan, reduceCtorEq, false_and, exists_false, false_iff]
    omega
  · exact iff_of_true ⟨_, hplan, hfirst⟩ hlt

theorem blockCount_plan (watermark best : Stamp) :
    (plan watermark best).blockCount = best.height.toNat - watermark.height.toNat := by
  obtain ⟨heq, hplan⟩ | ⟨_, hle, hplan⟩ | ⟨hlt, hfirst, hplan⟩ := plan_cases watermark best
  · rw [hplan, heq, Nat.sub_self]
    rfl
  · rw [hplan, Nat.sub_eq_zero_of_le hle]
    rfl
  · rw [hplan]
    change best.height.toNat + 1 - (watermark.height + 1).toNat = _
    rw [hfirst]
    omega

end Walk

end ChainFeed
