/-!
# Outcomes

An outcome is a value, or in its place an error or nothing. A step after another one is made if that
one succeeds, and what is done to errors leaves values alone. All of a list succeed if each of them
does.
-/

namespace ChainFeed.Outcome

variable {ε ε' α β : Type} {x : Except ε α} {a : α} {b : β}

theorem bind_eq_ok_iff {f : α → Except ε β} : x >>= f = .ok b ↔ ∃ a, x = .ok a ∧ f a = .ok b := by
  constructor
  · intro h
    cases x with
    | error e => cases h
    | ok a => exact ⟨a, rfl, h⟩
  · rintro ⟨a, rfl, h⟩
    exact h

theorem map_eq_ok_iff {f : α → β} : x.map f = .ok b ↔ ∃ a, x = .ok a ∧ f a = b := by
  constructor
  · intro h
    cases x with
    | error e => cases h
    | ok a => exact ⟨a, rfl, Except.ok.inj h⟩
  · rintro ⟨a, rfl, rfl⟩
    rfl

theorem mapError_eq_ok_iff {f : ε → ε'} : x.mapError f = .ok a ↔ x = .ok a := by
  constructor
  · intro h
    cases x with
    | error e => cases h
    | ok b => exact congrArg Except.ok (Except.ok.inj h)
  · rintro rfl
    rfl

theorem exists_error_of_not_ok (h : ∀ a, x ≠ .ok a) : ∃ e, x = .error e := by
  cases x with
  | error e => exact ⟨e, rfl⟩
  | ok a => exact absurd rfl (h a)

section list
variable {γ : Type} {f : α → Option β} {l : List α} {bs : List β}

theorem mapM_cons_eq_some_iff {c : α} : (c :: l).mapM f = some bs ↔
    ∃ b, f c = some b ∧ ∃ rest, l.mapM f = some rest ∧ b :: rest = bs := by
  simp [List.mapM_cons, Option.bind_eq_some_iff]

theorem forall_of_mapM {p : β → Prop} (hf : ∀ a b, f a = some b → p b)
    (hbs : l.mapM f = some bs) : ∀ b ∈ bs, p b := by
  induction l generalizing bs with
  | nil =>
    obtain rfl : [] = bs := Option.some.inj hbs
    simp
  | cons a l ih =>
    obtain ⟨b, hb, rest, hrest, rfl⟩ := mapM_cons_eq_some_iff.1 hbs
    exact List.forall_mem_cons.2 ⟨hf a b hb, ih hrest⟩

/-- What is seen of each value can be seen of what it comes from. -/
theorem map_of_mapM {g : β → γ} {h : α → γ} (hf : ∀ a b, f a = some b → g b = h a)
    (hbs : l.mapM f = some bs) : bs.map g = l.map h := by
  induction l generalizing bs with
  | nil =>
    obtain rfl : [] = bs := Option.some.inj hbs
    rfl
  | cons a l ih =>
    obtain ⟨b, hb, rest, hrest, rfl⟩ := mapM_cons_eq_some_iff.1 hbs
    rw [List.map_cons, List.map_cons, hf a b hb, ih hrest]

theorem exists_of_mapM (hbs : l.mapM f = some bs) : ∀ a ∈ l, ∃ b, f a = some b := by
  induction l generalizing bs with
  | nil => simp
  | cons a l ih =>
    obtain ⟨b, hb, rest, hrest, rfl⟩ := mapM_cons_eq_some_iff.1 hbs
    exact List.forall_mem_cons.2 ⟨⟨b, hb⟩, ih hrest⟩

theorem mapM_map_of_inverse {g : β → α} (hf : ∀ b, f (g b) = some b) (bs : List β) :
    (bs.map g).mapM f = some bs := by
  induction bs with
  | nil => rfl
  | cons b bs ih => exact mapM_cons_eq_some_iff.2 ⟨b, hf b, bs, ih, rfl⟩

end list

end ChainFeed.Outcome
