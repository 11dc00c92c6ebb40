import ChainFeed.Metrics.Basic
import Mathlib.Data.List.Nodup

/-!
# Counts by label

Failures are counted one by one, each under its label. A label stands once, and it stands there just
if a failure has it.
-/

namespace ChainFeed

namespace Metrics

/-- How often a label has been counted. -/
def under (label : String) (l : List (String × Nat)) : Nat := (l.lookup label).getD 0

/-- The failures `errors` counted on top of `l`. -/
def countAll (errors : List Error) (l : List (String × Nat)) : List (String × Nat) :=
  errors.foldl (fun l e => increment (failureLabel e) l) l

section
variable (label key : String) (l : List (String × Nat)) (errors : List Error)

theorem under_increment :
    under label (increment key l) = under label l + if key = label then 1 else 0 := by
  induction l with
  | nil =>
    by_cases h : key = label
    · simp [increment, under, h]
    · have hne : (label == key) = false := by simpa using fun he => h he.symm
      simp [increment, under, h, List.lookup_cons, hne]
  | cons p rest ih =>
    obtain ⟨k, n⟩ := p
    rw [increment]
    by_cases hk : k = key
    · subst hk
      rw [if_pos rfl]
      by_cases h : k = label
      · simp [under, h]
      · have hne : (label == k) = false := by simpa using fun he => h he.symm
        simp [under, h, List.lookup_cons, hne]
    · rw [if_neg hk]
      by_cases h : k = label
      · subst h
        have hne : key ≠ k := fun he => hk he.symm
        simp [under, hne]
      · have hne : (label == k) = false := by simpa using fun he => h he.symm
        simp only [under, List.lookup_cons, hne] at ih ⊢
        exact ih

theorem keys_increment : (increment key l).map Prod.fst =
    if key ∈ l.map Prod.fst then l.map Prod.fst else l.map Prod.fst ++ [key] := by
  induction l with
  | nil => rfl
  | cons p rest ih =>
    obtain ⟨k, n⟩ := p
    rw [increment]
    by_cases hk : k = key
    · simp [hk]
    · have hne : key ≠ k := fun he => hk he.symm
      rw [if_neg hk, List.map_cons, ih, List.map_cons]
      by_cases hmem : key ∈ rest.map Prod.fst
      · rw [if_pos hmem, if_pos (List.mem_cons_of_mem _ hmem)]
      · rw [if_neg hmem, if_neg (by simp [hne, hmem])]
        rfl

theorem total_countAll : total (countAll errors l) = total l + errors.length := by
  induction errors generalizing l with
  | nil => rfl
  | cons e rest ih =>
    rw [countAll, List.foldl_cons, ← countAll, ih, total_increment, List.length_cons]
    omega

theorem under_countAll : under label (countAll errors l) =
    under label l + errors.countP (fun e => failureLabel e = label) := by
  induction errors generalizing l with
  | nil => rfl
  | cons e rest ih =>
    rw [countAll, List.foldl_cons, ← countAll, ih, under_increment, List.countP_cons]
    simp only [decide_eq_true_eq]
    omega

variable {label key l errors}

theorem nodup_countAll (h : (l.map Prod.fst).Nodup) :
    ((countAll errors l).map Prod.fst).Nodup := by
  induction errors generalizing l with
  | nil => exact h
  | cons e rest ih =>
    refine ih ?_
    rw [keys_increment]
    split
    · exact h
    · next hnew => exact List.nodup_append.2 ⟨h, List.nodup_singleton _, by
        rintro a ha b hb rfl
        exact hnew (List.mem_singleton.1 hb ▸ ha)⟩

theorem mem_countAll : label ∈ (countAll errors l).map Prod.fst ↔
    label ∈ l.map Prod.fst ∨ ∃ e ∈ errors, failureLabel e = label := by
  induction errors generalizing l with
  | nil => simp [countAll]
  | cons e rest ih =>
    rw [countAll, List.foldl_cons, ← countAll, ih, keys_increment, List.exists_mem_cons_iff,
      ← or_assoc]
    refine or_congr_left ?_
    split
    · next hold =>
      refine ⟨.inl, ?_⟩
      rintro (h | rfl)
      · exact h
      · exact hold
    · rw [List.mem_append, List.mem_singleton, eq_comm]

end

end Metrics

end ChainFeed
