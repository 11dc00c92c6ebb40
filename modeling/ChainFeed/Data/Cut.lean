/-!
# Cutting lists

A list is cut at every element of a kind, and those elements are left out. There is always one
piece more than there are cuts.
-/

namespace ChainFeed

variable {α : Type}

def cutAt (p : α → Bool) : List α → List (List α)
  | [] => [[]]
  | a :: rest =>
    if p a then [] :: cutAt p rest
    else
      match cutAt p rest with
      | [] => [[a]]
      | first :: more => (a :: first) :: more

theorem cutAt_cons_of_pos {p : α → Bool} {a : α} (h : p a = true) (rest : List α) :
    cutAt p (a :: rest) = [] :: cutAt p rest := by
  simp [cutAt, h]

theorem length_cutAt (p : α → Bool) (l : List α) : (cutAt p l).length = l.countP p + 1 := by
  induction l with
  | nil => rfl
  | cons a l ih =>
    by_cases h : p a = true
    · simp [cutAt, h, ih]
    · cases hc : cutAt p l with
      | nil => simp [hc] at ih
      | cons first more => simp_all [cutAt]

theorem cutAt_of_all_neg {p : α → Bool} {l : List α} (h : ∀ a ∈ l, p a = false) :
    cutAt p l = [l] := by
  induction l with
  | nil => rfl
  | cons a l ih => simp [cutAt, h a (by simp), ih fun b hb => h b (by simp [hb])]

/-- The piece in front of the first cut. -/
theorem cutAt_append_cons {p : α → Bool} {l : List α} {a : α} (h : ∀ b ∈ l, p b = false)
    (ha : p a = true) (rest : List α) : cutAt p (l ++ a :: rest) = l :: cutAt p rest := by
  induction l with
  | nil => exact cutAt_cons_of_pos ha rest
  | cons b l ih => simp [cutAt, h b (by simp), ih fun c hc => h c (by simp [hc])]

theorem cutAt_cons_of_neg {p : α → Bool} {a : α} (h : p a = false) (rest : List α) :
    ∃ first more, cutAt p rest = first :: more ∧ cutAt p (a :: rest) = (a :: first) :: more := by
  cases hc : cutAt p rest with
  | nil =>
    have hlength := length_cutAt p rest
    simp [hc] at hlength
  | cons first more => exact ⟨first, more, rfl, by simp [cutAt, h, hc]⟩

/-- There is no cut left in a piece. -/
theorem eq_false_of_mem_cutAt {p : α → Bool} {l piece : List α} (h : piece ∈ cutAt p l) :
    ∀ a ∈ piece, p a = false := by
  induction l generalizing piece with
  | nil =>
    rw [cutAt, List.mem_singleton] at h
    simp [h]
  | cons b l ih =>
    cases hb : p b with
    | true =>
      rw [cutAt_cons_of_pos hb, List.mem_cons] at h
      obtain rfl | h := h
      · simp
      · exact ih h
    | false =>
      obtain ⟨first, more, hcut, hcons⟩ := cutAt_cons_of_neg hb l
      rw [hcons, List.mem_cons] at h
      obtain rfl | h := h
      · exact List.forall_mem_cons.2 ⟨hb, ih (by simp [hcut])⟩
      · exact ih (by simp [hcut, h])

/-- Pieces without cuts in them are found again when they have been joined. -/
theorem cutAt_intercalate {p : α → Bool} {a : α} (ha : p a = true) {pieces : List (List α)}
    (hne : pieces ≠ []) (h : ∀ piece ∈ pieces, ∀ b ∈ piece, p b = false) :
    cutAt p ([a].intercalate pieces) = pieces := by
  induction pieces with
  | nil => exact absurd rfl hne
  | cons piece rest ih =>
    obtain ⟨hpiece, hrest⟩ := List.forall_mem_cons.1 h
    cases rest with
    | nil => rw [List.intercalate_singleton, cutAt_of_all_neg hpiece]
    | cons next more =>
      rw [List.intercalate_cons_cons, List.append_assoc, List.singleton_append,
        cutAt_append_cons hpiece ha, ih (List.cons_ne_nil _ _) hrest]

theorem intercalate_cutAt [DecidableEq α] (a : α) (l : List α) :
    [a].intercalate (cutAt (· == a) l) = l := by
  induction l with
  | nil => rfl
  | cons b l ih =>
    cases hb : (b == a) with
    | true =>
      obtain rfl := eq_of_beq hb
      rw [cutAt_cons_of_pos (p := (· == b)) hb]
      cases hc : cutAt (· == b) l with
      | nil =>
        have hlength := length_cutAt (· == b) l
        simp [hc] at hlength
      | cons first more =>
        rw [hc] at ih
        rw [List.intercalate_cons_cons, ih]
        rfl
    | false =>
      obtain ⟨first, more, hcut, hcons⟩ := cutAt_cons_of_neg (p := (· == a)) hb l
      rw [hcut] at ih
      rw [hcons, ← ih]
      cases more with
      | nil => simp
      | cons next more => simp [List.intercalate_cons_cons]

end ChainFeed
