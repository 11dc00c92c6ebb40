import ChainFeed.Config.Variable
import Mathlib.Data.List.TakeWhile

/-!
# What a list of items says

Items stand between commas. Blanks around them and places without an item say nothing, so a text
says one list, and exactly the texts that place the items of a list are read as it.
-/

namespace ChainFeed

namespace Text

/-- There is something, without a comma in it and without a blank at either end. -/
structure IsItem (item : List Char) : Prop where
  ne_nil : item ≠ []
  comma : ',' ∉ item
  head : ∀ c, item.head? = some c → isBlank c = false
  last : ∀ c, item.getLast? = some c → isBlank c = false

/-- The places hold the items in their order, each between any blanks; the other places hold nothing
but blanks. -/
inductive Placed : List (List Char) → List (List Char) → Prop
  | nil : Placed [] []
  | blank {items places : List (List Char)} {blanks : List Char}
      (hblanks : ∀ c ∈ blanks, isBlank c = true) (hrest : Placed items places) :
      Placed items (blanks :: places)
  | item {items places : List (List Char)} {before item after : List Char}
      (hbefore : ∀ c ∈ before, isBlank c = true) (hitem : IsItem item)
      (hafter : ∀ c ∈ after, isBlank c = true) (hrest : Placed items places) :
      Placed (item :: items) ((before ++ item ++ after) :: places)

/-- The text is one of the listings of the items. -/
def IsListing (items : List String) (s : String) : Prop :=
  ∃ places, Placed (items.map String.toList) places ∧ s.toList = [','].intercalate places

theorem ne_comma_of_isBlank {c : Char} (h : isBlank c = true) : c ≠ ',' := by
  rintro rfl
  exact absurd h (by decide)

theorem trimList_of_blank {l : List Char} (h : ∀ c ∈ l, isBlank c = true) : trimList l = [] := by
  rw [trimList, List.dropWhile_eq_nil_iff.2 h]
  rfl

theorem dropWhile_isBlank_eq_self {l : List Char}
    (h : ∀ c, l.head? = some c → isBlank c = false) : l.dropWhile isBlank = l := by
  cases l with
  | nil => rfl
  | cons c l => exact List.dropWhile_cons_of_neg (by simp [h c rfl])

theorem trimList_append {before item after : List Char} (hbefore : ∀ c ∈ before, isBlank c = true)
    (hitem : IsItem item) (hafter : ∀ c ∈ after, isBlank c = true) :
    trimList (before ++ item ++ after) = item := by
  have hfront : (before ++ item ++ after).dropWhile isBlank = item ++ after := by
    rw [List.append_assoc, List.dropWhile_append_of_pos hbefore]
    refine dropWhile_isBlank_eq_self fun c hc => hitem.head c ?_
    rwa [List.head?_append, List.head?_eq_some_head hitem.ne_nil, Option.some_or,
      ← List.head?_eq_some_head] at hc
  have hback : (item ++ after).reverse.dropWhile isBlank = item.reverse := by
    rw [List.reverse_append, List.dropWhile_append_of_pos fun c hc => hafter c (by simpa using hc)]
    refine dropWhile_isBlank_eq_self fun c hc => hitem.last c ?_
    rwa [List.head?_reverse] at hc
  rw [trimList, hfront, hback, List.reverse_reverse]

theorem exists_eq_trimList_append (l : List Char) : ∃ after : List Char,
    (∀ c ∈ after, isBlank c = true) ∧ l.dropWhile isBlank = trimList l ++ after := by
  have hback := List.takeWhile_append_dropWhile (p := isBlank) (l := (l.dropWhile isBlank).reverse)
  refine ⟨((l.dropWhile isBlank).reverse.takeWhile isBlank).reverse, fun c hc => ?_, ?_⟩
  · exact List.mem_takeWhile_imp (List.mem_reverse.1 hc)
  · rw [trimList, ← List.reverse_append, hback, List.reverse_reverse]

theorem exists_eq_append_trimList (l : List Char) : ∃ before after : List Char,
    (∀ c ∈ before, isBlank c = true) ∧ (∀ c ∈ after, isBlank c = true) ∧
      l = before ++ trimList l ++ after := by
  obtain ⟨after, hafter, hback⟩ := exists_eq_trimList_append l
  refine ⟨l.takeWhile isBlank, after, fun c hc => List.mem_takeWhile_imp hc, hafter, ?_⟩
  rw [List.append_assoc, ← hback, List.takeWhile_append_dropWhile]

theorem isItem_trimList {l : List Char} (hcomma : ',' ∉ l) (h : trimList l ≠ []) :
    IsItem (trimList l) := by
  obtain ⟨after, -, hl⟩ := exists_eq_trimList_append l
  refine ⟨h, fun hmem => ?_, fun c hc => ?_, fun c hc => ?_⟩
  · exact hcomma ((List.dropWhile_sublist isBlank).mem (hl ▸ List.mem_append_left after hmem))
  · have hnot := List.head?_dropWhile_not isBlank l
    rw [hl, List.head?_append, hc] at hnot
    exact hnot
  · have hnot := List.head?_dropWhile_not isBlank (l.dropWhile isBlank).reverse
    rw [trimList, List.getLast?_reverse] at hc
    rw [hc] at hnot
    exact hnot

/-- What is left of the pieces of a text stands in them. -/
theorem placed_trimList {pieces : List (List Char)} (h : ∀ piece ∈ pieces, ',' ∉ piece) :
    Placed ((pieces.map trimList).filter fun l => !l.isEmpty) pieces := by
  induction pieces with
  | nil => exact .nil
  | cons piece rest ih =>
    obtain ⟨hpiece, hrest⟩ := List.forall_mem_cons.1 h
    obtain ⟨before, after, hbefore, hafter, heq⟩ := exists_eq_append_trimList piece
    rw [List.map_cons]
    by_cases hempty : trimList piece = []
    · rw [hempty, List.append_nil] at heq
      rw [hempty, List.filter_cons_of_neg (by simp)]
      refine .blank (fun c hc => ?_) (ih hrest)
      rw [heq] at hc
      exact (List.mem_append.1 hc).elim (hbefore c) (hafter c)
    · rw [List.filter_cons_of_pos (by simpa using hempty)]
      have hplaced := Placed.item hbefore (isItem_trimList hpiece hempty) hafter (ih hrest)
      rwa [← heq] at hplaced

theorem Placed.comma_not_mem {items places : List (List Char)} (h : Placed items places) :
    ∀ place ∈ places, ',' ∉ place := by
  induction h with
  | nil => simp
  | blank hblanks _ ih =>
    exact List.forall_mem_cons.2 ⟨fun hc => ne_comma_of_isBlank (hblanks _ hc) rfl, ih⟩
  | item hbefore hitem hafter _ ih =>
    refine List.forall_mem_cons.2 ⟨fun hc => ?_, ih⟩
    obtain (hc | hc) | hc : (_ ∨ _) ∨ _ := by simpa only [List.mem_append] using hc
    · exact ne_comma_of_isBlank (hbefore _ hc) rfl
    · exact hitem.comma hc
    · exact ne_comma_of_isBlank (hafter _ hc) rfl

theorem Placed.filter_trimList {items places : List (List Char)} (h : Placed items places) :
    ((places.map trimList).filter fun l => !l.isEmpty) = items := by
  induction h with
  | nil => rfl
  | blank hblanks _ ih =>
    rw [List.map_cons, trimList_of_blank hblanks, List.filter_cons_of_neg (by simp), ih]
  | item hbefore hitem hafter _ ih =>
    rw [List.map_cons, trimList_append hbefore hitem hafter,
      List.filter_cons_of_pos (by simpa using hitem.ne_nil), ih]

end Text

theorem Variable.readItems_eq_iff {s : String} {items : List String} :
    readItems s = items ↔ Text.IsListing items s := by
  constructor
  · rintro rfl
    refine ⟨cutAt (· == ',') s.toList, ?_, (intercalate_cutAt ',' s.toList).symm⟩
    have hitems : (readItems s).map String.toList =
        (((cutAt (· == ',') s.toList).map Text.trimList).filter fun l => !l.isEmpty) := by
      simp [readItems, List.map_map, Function.comp_def]
    rw [hitems]
    refine Text.placed_trimList fun piece hpiece hcomma => ?_
    exact absurd (eq_false_of_mem_cutAt hpiece ',' hcomma) (by simp)
  · rintro ⟨places, hplaced, hs⟩
    have hcut : ((cutAt (· == ',') s.toList).map Text.trimList).filter (fun l => !l.isEmpty) =
        (places.map Text.trimList).filter fun l => !l.isEmpty := by
      cases places with
      | nil => rw [hs]; rfl
      | cons place rest =>
        rw [hs, cutAt_intercalate (by simp) (List.cons_ne_nil _ _)]
        intro piece hpiece c hc
        refine beq_eq_false_iff_ne.2 fun h => hplaced.comma_not_mem piece hpiece (h ▸ hc)
    rw [readItems, hcut, hplaced.filter_trimList]
    simp [List.map_map, Function.comp_def]

end ChainFeed
