import ChainFeed.Mempool.Delta
import Mathlib.Data.List.Nodup

/-!
# What a listing adds and removes

An id is fetched at most once for a listing, in the order of the listing, and only if it is not known.
An id is told as gone if it is known and not listed. The known ids with the difference applied to them
are those that are listed, and nothing is left to add or remove.
-/

namespace ChainFeed.Delta

theorem mem_fresh {seen : Distinct Txid} {listing : List Txid} {t : Txid} :
    t ∈ fresh seen listing ↔ t ∈ listing ∧ t ∉ seen := by
  induction listing generalizing seen with
  | nil => simp [fresh]
  | cons id rest ih =>
    rw [fresh]
    split
    · next hid =>
      rw [ih, List.mem_cons]
      refine ⟨fun ⟨hrest, ht⟩ => ⟨.inr hrest, ht⟩, fun ⟨hlist, ht⟩ => ⟨hlist.resolve_left ?_, ht⟩⟩
      rintro rfl
      exact ht hid
    · next hid =>
      simp only [List.mem_cons, ih, Distinct.mem_insert]
      by_cases ht : t = id
      · subst ht
        simp [hid]
      · simp [ht]

theorem nodup_fresh (seen : Distinct Txid) (listing : List Txid) : (fresh seen listing).Nodup := by
  induction listing generalizing seen with
  | nil => exact List.nodup_nil
  | cons id rest ih =>
    rw [fresh]
    split
    · exact ih seen
    · refine List.nodup_cons.2 ⟨fun hid => ?_, ih _⟩
      exact (mem_fresh.1 hid).2 (Distinct.mem_insert.2 (.inr rfl))

/-- What is new of a listing, in the order in which it is first listed. -/
theorem fresh_eq_eraseDups (seen : Distinct Txid) (listing : List Txid) :
    fresh seen listing = (listing.filter (· ∉ seen)).eraseDups := by
  induction listing generalizing seen with
  | nil => rfl
  | cons id rest ih =>
    rw [fresh]
    split
    · next hid => rw [ih, List.filter_cons_of_neg (by simpa using hid)]
    · next hid =>
      rw [ih, List.filter_cons_of_pos (by simpa using hid), List.eraseDups_cons, List.filter_filter]
      refine congrArg (fun l => id :: List.eraseDups l) (List.filter_congr fun t _ => ?_)
      by_cases ht : t = id
      · simp [Distinct.mem_insert, ht]
      · simp [Distinct.mem_insert, ht]

theorem mem_removed {known : Distinct Txid} {listing : List Txid} {t : Txid} :
    t ∈ (between known listing).removed ↔ t ∈ known ∧ t ∉ listing := by
  simp [between, Distinct.mem_def]

theorem nodup_removed (known : Distinct Txid) (listing : List Txid) :
    (between known listing).removed.Nodup :=
  known.nodup.filter _

theorem count_removed (known : Distinct Txid) (listing : List Txid) (t : Txid) :
    (between known listing).removed.count t = if t ∈ known ∧ t ∉ listing then 1 else 0 := by
  split
  · next h => exact List.count_eq_one_of_mem (nodup_removed known listing) (mem_removed.2 h)
  · next h => exact List.count_eq_zero_of_not_mem (mt mem_removed.1 h)

theorem disjoint_between (known : Distinct Txid) (listing : List Txid) :
    List.Disjoint (between known listing).added (between known listing).removed := by
  intro t hadded hremoved
  exact (mem_fresh.1 hadded).2 (mem_removed.1 hremoved).1

/-- The known ids after a difference: without what is gone and with what is new. -/
def applyTo (d : Delta) (known : Distinct Txid) : Distinct Txid :=
  (known.eraseAll d.removed).insertAll d.added

theorem mem_applyTo {d : Delta} {known : Distinct Txid} {t : Txid} :
    t ∈ d.applyTo known ↔ (t ∈ known ∧ t ∉ d.removed) ∨ t ∈ d.added := by
  rw [applyTo, Distinct.mem_insertAll, Distinct.mem_eraseAll]

theorem mem_applyTo_between {known : Distinct Txid} {listing : List Txid} {t : Txid} :
    t ∈ (between known listing).applyTo known ↔ t ∈ listing := by
  have hadded : t ∈ (between known listing).added ↔ t ∈ listing ∧ t ∉ known := mem_fresh
  rw [mem_applyTo, mem_removed, hadded]
  by_cases hknown : t ∈ known
  · simp [hknown]
  · simp [hknown]

theorem isEmpty_between_iff {known : Distinct Txid} {listing : List Txid} :
    (between known listing).isEmpty = true ↔ ∀ t, t ∈ known ↔ t ∈ listing := by
  rw [isEmpty, Bool.and_eq_true, List.isEmpty_iff, List.isEmpty_iff,
    List.eq_nil_iff_forall_not_mem, List.eq_nil_iff_forall_not_mem]
  constructor
  · rintro ⟨hadded, hremoved⟩ t
    constructor
    · intro hknown
      by_contra hlisted
      exact hremoved t (mem_removed.2 ⟨hknown, hlisted⟩)
    · intro hlisted
      by_contra hknown
      exact hadded t (mem_fresh.2 ⟨hlisted, hknown⟩)
  · intro h
    refine ⟨fun t ht => ?_, fun t ht => ?_⟩
    · obtain ⟨hlisted, hnew⟩ := mem_fresh.1 ht
      exact hnew ((h t).2 hlisted)
    · obtain ⟨hknown, hgone⟩ := mem_removed.1 ht
      exact hgone ((h t).1 hknown)

/-- A listing adds its ids that are not known, each at its first place, and removes each known id
that it does not list once. Both together turn the known ids into the listed ones, which differ from
the listing in nothing, and there is nothing to do exactly if these were the known ids. -/
theorem listing_is_told_apart_exactly (known : Distinct Txid) (listing : List Txid) :
    let d := between known listing
    d.added = (listing.filter (· ∉ known)).eraseDups ∧
      (∀ t, d.removed.count t = if t ∈ known ∧ t ∉ listing then 1 else 0) ∧
      List.Disjoint d.added d.removed ∧
      (∀ t, t ∈ d.applyTo known ↔ (t ∈ known ∧ t ∉ d.removed) ∨ t ∈ d.added) ∧
      (∀ t, t ∈ d.applyTo known ↔ t ∈ listing) ∧
      between (d.applyTo known) listing = ⟨[], []⟩ ∧
      (d.isEmpty = true ↔ ∀ t, t ∈ known ↔ t ∈ listing) := by
  intro d
  have hrest : (between (d.applyTo known) listing).isEmpty = true :=
    isEmpty_between_iff.2 fun t => mem_applyTo_between
  refine ⟨fresh_eq_eraseDups known listing, count_removed known listing,
    disjoint_between known listing, fun t => mem_applyTo, fun t => mem_applyTo_between, ?_,
    isEmpty_between_iff⟩
  generalize between (d.applyTo known) listing = rest at hrest
  obtain ⟨added, removed⟩ := rest
  simpa [isEmpty] using hrest

/-- An id that is listed twice is new once, and one that is not listed is gone. -/
example : between (.ofList [.fill 1, .fill 2]) [.fill 3, .fill 2, .fill 3] =
    ⟨[.fill 3], [.fill 1]⟩ := by decide

end ChainFeed.Delta
