/-!
# Lists without repetition

A finite set that keeps its elements in the order in which they came. Inserting an element that is
present and erasing one that is absent change nothing, so `size` counts elements.
-/

namespace ChainFeed

structure Distinct (α : Type) where
  items : List α
  nodup : items.Nodup
  deriving DecidableEq

namespace Distinct

variable {α : Type}

def empty : Distinct α := ⟨[], List.nodup_nil⟩

instance : Inhabited (Distinct α) := ⟨empty⟩

instance : Membership α (Distinct α) := ⟨fun s a => a ∈ s.items⟩

theorem mem_def {a : α} {s : Distinct α} : a ∈ s ↔ a ∈ s.items := Iff.rfl

def size (s : Distinct α) : Nat := s.items.length

def isEmpty (s : Distinct α) : Bool := s.items.isEmpty

@[simp] theorem not_mem_empty (a : α) : a ∉ (empty : Distinct α) := by
  simp [mem_def, empty]

theorem isEmpty_iff {s : Distinct α} : s.isEmpty = true ↔ ∀ a, a ∉ s := by
  simp [isEmpty, mem_def, List.eq_nil_iff_forall_not_mem]

variable [DecidableEq α]

instance (a : α) (s : Distinct α) : Decidable (a ∈ s) := inferInstanceAs (Decidable (a ∈ s.items))

def insert (s : Distinct α) (a : α) : Distinct α :=
  if h : a ∈ s.items then s
  else ⟨s.items ++ [a], by
    refine List.nodup_append.2 ⟨s.nodup, by simp, ?_⟩
    rintro b hb c hc rfl
    simp_all⟩

def erase (s : Distinct α) (a : α) : Distinct α := ⟨s.items.erase a, s.nodup.erase a⟩

def insertAll (s : Distinct α) (l : List α) : Distinct α := l.foldl insert s

def eraseAll (s : Distinct α) (l : List α) : Distinct α := l.foldl erase s

def ofList (l : List α) : Distinct α := empty.insertAll l

@[simp] theorem mem_insert {a b : α} {s : Distinct α} : b ∈ s.insert a ↔ b ∈ s ∨ b = a := by
  unfold insert
  split <;> simp_all [mem_def]

@[simp] theorem mem_erase {a b : α} {s : Distinct α} : b ∈ s.erase a ↔ b ≠ a ∧ b ∈ s := by
  simp [mem_def, erase, s.nodup.mem_erase_iff]

@[simp] theorem mem_insertAll {b : α} {l : List α} {s : Distinct α} :
    b ∈ s.insertAll l ↔ b ∈ s ∨ b ∈ l := by
  induction l generalizing s with
  | nil => simp [insertAll]
  | cons a l ih => simpa [insertAll, or_assoc] using ih (s := s.insert a)

@[simp] theorem mem_eraseAll {b : α} {l : List α} {s : Distinct α} :
    b ∈ s.eraseAll l ↔ b ∈ s ∧ b ∉ l := by
  induction l generalizing s with
  | nil => simp [eraseAll]
  | cons a l ih =>
    have h := ih (s := s.erase a)
    simp only [eraseAll, List.foldl_cons] at h ⊢
    rw [h]
    simp only [mem_erase, List.mem_cons, not_or]
    exact ⟨fun ⟨⟨h₁, h₂⟩, h₃⟩ => ⟨h₂, h₁, h₃⟩, fun ⟨h₂, h₁, h₃⟩ => ⟨⟨h₁, h₂⟩, h₃⟩⟩

@[simp] theorem mem_ofList {b : α} {l : List α} : b ∈ ofList l ↔ b ∈ l := by
  simp [ofList]

theorem insert_of_mem {a : α} {s : Distinct α} (h : a ∈ s) : s.insert a = s := by
  unfold insert
  rw [dif_pos (mem_def.1 h)]

end Distinct

end ChainFeed
