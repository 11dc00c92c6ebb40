import ChainFeed.Proofs.Json.Number

/-!
# JSON read back

What is written of a value is read as that value: texts with their escapes, numbers of any size, and
the items and fields of lists and records in their order. Instants are left out, as JSON has none.
-/

namespace ChainFeed.Json

section text
variable {rest : List Char}

theorem hexUnit_hexDigits4 {n : Nat} (h : n < 65536) (rest : List Char) :
    hexUnit (hexDigits4 n ++ rest) = some (n, rest) := by
  have hdigit (k : Nat) : Hex.digitValue? (Nat.digitChar (k % 16)) = some (k % 16) :=
    Hex.digitValue?_digitChar _ (Nat.mod_lt _ (by omega))
  simp only [hexDigits4, hexUnit, List.cons_append, List.nil_append, hdigit, Option.bind_eq_bind,
    Option.bind_some, Option.pure_def, Option.some.injEq, Prod.mk.injEq, and_true]
  omega

theorem unicodeEscape_hexDigits4 {c : Char} (h : c.toNat < 0x20) (rest : List Char) :
    unicodeEscape (hexDigits4 c.toNat ++ rest) = some (some c, rest) := by
  have hlow : (decide (c.toNat < 0xd800) || decide (0xdfff < c.toNat)) = true := by
    simp
    omega
  simp only [unicodeEscape, hexUnit_hexDigits4 (by omega : c.toNat < 65536), Option.bind_eq_bind,
    Option.bind_some, hlow, if_true, Option.pure_def, Char.ofNat_toNat]

theorem textRest_escapeChar (c : Char) (fuel : Nat) (read rest : List Char) :
    textRest (fuel + 1) (some read) (escapeChar c ++ rest) =
      textRest fuel (some (c :: read)) rest := by
  unfold escapeChar
  split
  · next h => subst h; rfl
  split
  · next h => subst h; rfl
  split
  · next h => subst h; rfl
  split
  · next h => subst h; rfl
  split
  · next h => subst h; rfl
  split
  · next h => subst h; rfl
  split
  · next h => subst h; rfl
  split
  · next h => simp [textRest, unicodeEscape_hexDigits4 h]
  · next _ hbackslash _ _ _ _ _ hcontrol =>
    simp [textRest, hbackslash, hcontrol]

/-- Every escape is undone by one step of the reader. -/
theorem textRest_append (s : List Char) {fuel : Nat} (h : s.length < fuel)
    (read rest : List Char) : textRest fuel (some read) (s.flatMap escapeChar ++ '"' :: rest) =
      some (some (String.ofList (read.reverse ++ s)), rest) := by
  induction s generalizing fuel read with
  | nil =>
    obtain ⟨fuel, rfl⟩ := Nat.exists_eq_succ_of_ne_zero (by omega : fuel ≠ 0)
    simp [textRest]
  | cons c s ih =>
    obtain ⟨fuel, rfl⟩ := Nat.exists_eq_succ_of_ne_zero (by omega : fuel ≠ 0)
    rw [List.flatMap_cons, List.append_assoc, textRest_escapeChar,
      ih (by simpa using h), List.reverse_cons, List.append_assoc, List.singleton_append]

theorem length_le_flatMap_escapeChar (s : List Char) :
    s.length ≤ (s.flatMap escapeChar).length := by
  induction s with
  | nil => simp
  | cons c s ih =>
    have hne : 0 < (escapeChar c).length := by
      unfold escapeChar
      repeat' split
      all_goals simp
    rw [List.flatMap_cons, List.length_append, List.length_cons]
    omega

theorem toList_writeText (s : String) :
    (writeText s).toList = '"' :: (s.toList.flatMap escapeChar ++ ['"']) := by
  simp [writeText]

theorem text_flatMap_escapeChar (s : String) :
    text (s.toList.flatMap escapeChar ++ '"' :: rest) = some (some s, rest) := by
  have hlength := length_le_flatMap_escapeChar s.toList
  rw [text, textRest_append _ (by rw [List.length_append]; omega)]
  simp

end text

/-- A value that has a text in JSON. -/
inductive IsJson : Value → Prop
  | null : IsJson .null
  | bool (b : Bool) : IsJson (.bool b)
  | int (n : Int) : IsJson (.int n)
  | float {text : String} (h : IsFloat text) : IsJson (.float text)
  | text (s : String) : IsJson (.text s)
  | list {items : List Value} (h : ∀ v ∈ items, IsJson v) : IsJson (.list items)
  | record {fields : List (String × Value)} (h : ∀ f ∈ fields, IsJson f.2) :
    IsJson (.record fields)
  | garbled : IsJson .garbled

/-- The text begins with neither a blank nor the end of a list or a record. -/
def Opens (s : List Char) : Prop :=
  ∃ c more, s = c :: more ∧ isSpace c = false ∧ c ≠ ']' ∧ c ≠ '\x7d'

/-- The value is read off the front of its text, given fuel for every character. -/
def Reads (v : Value) : Prop :=
  ∀ (fuel : Nat) (rest : List Char), Ends rest → (write v).toList.length ≤ fuel →
    value fuel ((write v).toList ++ rest) = some (v, rest)

theorem skipSpace_of_opens {s : List Char} (h : Opens s) : skipSpace s = s := by
  obtain ⟨c, more, rfl, hspace, -⟩ := h
  exact List.dropWhile_cons_of_neg (by simp [hspace])

theorem skipSpace_cons {c : Char} (h : isSpace c = false) (s : List Char) :
    skipSpace (c :: s) = c :: s :=
  List.dropWhile_cons_of_neg (by simp [h])

theorem Opens.append {s : List Char} (h : Opens s) (t : List Char) : Opens (s ++ t) := by
  obtain ⟨c, more, rfl, hc⟩ := h
  exact ⟨c, more ++ t, rfl, hc⟩

theorem ne_of_numeric {c d : Char} (h : c.isDigit = true ∨ c = '-')
    (hd : d.isDigit = false ∧ d ≠ '-') : c ≠ d := by
  rintro rfl
  obtain h | h := h
  · exact absurd (h.symm.trans hd.1) (by decide)
  · exact hd.2 h

theorem opens_of_numeric {c : Char} (h : c.isDigit = true ∨ c = '-') (s : List Char) :
    Opens (c :: s) := by
  refine ⟨c, s, rfl, ?_, ne_of_numeric h (by decide), ne_of_numeric h (by decide)⟩
  simp only [isSpace, Bool.or_eq_false_iff, decide_eq_false_iff_not]
  exact ⟨⟨⟨ne_of_numeric h (by decide), ne_of_numeric h (by decide)⟩,
    ne_of_numeric h (by decide)⟩, ne_of_numeric h (by decide)⟩

/-- Nothing but a number begins with a digit or a sign. -/
theorem value_of_numeric {c : Char} (h : c.isDigit = true ∨ c = '-') (fuel : Nat)
    (s : List Char) : value (fuel + 1) (c :: s) = number (c :: s) := by
  have hn : c ≠ 'n' := ne_of_numeric h (by decide)
  have ht : c ≠ 't' := ne_of_numeric h (by decide)
  have hf : c ≠ 'f' := ne_of_numeric h (by decide)
  have hquote : c ≠ '"' := ne_of_numeric h (by decide)
  have hbracket : c ≠ '[' := ne_of_numeric h (by decide)
  have hbrace : c ≠ '\x7b' := ne_of_numeric h (by decide)
  simp [value, hn, ht, hf, hquote, hbracket, hbrace]

theorem exists_eq_cons_of_isWhole (negative : Bool) {whole : List Char} (h : IsWhole whole)
    (tail : List Char) : ∃ c s, (if negative then ['-'] else []) ++ whole ++ tail = c :: s ∧
      (c.isDigit = true ∨ c = '-') := by
  obtain ⟨d, digits, rfl⟩ := List.exists_cons_of_ne_nil h.ne_nil
  cases negative with
  | true => exact ⟨'-', _, rfl, .inr rfl⟩
  | false => exact ⟨d, _, rfl, .inl (h.isDigit d (by simp))⟩

theorem exists_toString_eq_cons (n : Int) :
    ∃ c s, (toString n).toList = c :: s ∧ (c.isDigit = true ∨ c = '-') := by
  have hcons := exists_eq_cons_of_isWhole (decide (n < 0)) (isWhole_toDigits n.natAbs) []
  rwa [List.append_nil, ← toList_toString] at hcons

theorem exists_eq_cons_of_isFloat {text : String} (h : IsFloat text) :
    ∃ c s, text.toList = c :: s ∧ (c.isDigit = true ∨ c = '-') := by
  obtain ⟨negative, whole, fraction, exponent, hwhole, -, -, -, htext⟩ := h
  rw [htext, List.append_assoc _ fraction]
  exact exists_eq_cons_of_isWhole negative hwhole _

theorem toList_write_list (vs : List Value) :
    (write (.list vs)).toList = '[' :: ((writeItems vs).toList ++ [']']) := by
  simp [write]

theorem toList_write_record (fs : List (String × Value)) :
    (write (.record fs)).toList = '\x7b' :: ((writeFields fs).toList ++ ['\x7d']) := by
  simp [write]

theorem toList_writeItems_cons (v w : Value) (more : List Value) :
    (writeItems (v :: w :: more)).toList =
      (write v).toList ++ ',' :: (writeItems (w :: more)).toList := by
  simp [writeItems]

theorem toList_writeFields_singleton (name : String) (v : Value) :
    (writeFields [(name, v)]).toList =
      '"' :: (name.toList.flatMap escapeChar ++ '"' :: ':' :: (write v).toList) := by
  simp [writeFields, toList_writeText]

theorem toList_writeFields_cons (name : String) (v : Value) (f : String × Value)
    (more : List (String × Value)) : (writeFields ((name, v) :: f :: more)).toList =
      '"' :: (name.toList.flatMap escapeChar ++ '"' :: ':' ::
        ((write v).toList ++ ',' :: (writeFields (f :: more)).toList)) := by
  simp [writeFields, toList_writeText]

theorem opens_write {v : Value} (h : IsJson v) : Opens (write v).toList := by
  cases h with
  | null => exact ⟨_, _, rfl, by decide, by decide, by decide⟩
  | bool b => cases b <;> exact ⟨_, _, rfl, by decide, by decide, by decide⟩
  | int n =>
    obtain ⟨c, s, hs, hc⟩ := exists_toString_eq_cons n
    rw [write, hs]
    exact opens_of_numeric hc s
  | float h =>
    obtain ⟨c, s, hs, hc⟩ := exists_eq_cons_of_isFloat h
    rw [write, hs]
    exact opens_of_numeric hc s
  | text s =>
    rw [write, toList_writeText]
    exact ⟨_, _, rfl, by decide, by decide, by decide⟩
  | list h =>
    rw [toList_write_list]
    exact ⟨_, _, rfl, by decide, by decide, by decide⟩
  | record h =>
    rw [toList_write_record]
    exact ⟨_, _, rfl, by decide, by decide, by decide⟩
  | garbled => exact ⟨_, _, rfl, by decide, by decide, by decide⟩

theorem opens_writeItems {v : Value} (h : IsJson v) (more : List Value) :
    Opens (writeItems (v :: more)).toList := by
  cases more with
  | nil =>
    rw [writeItems]
    exact opens_write h
  | cons w more =>
    rw [toList_writeItems_cons]
    exact (opens_write h).append _

theorem opens_writeFields (f : String × Value) (more : List (String × Value)) :
    Opens (writeFields (f :: more)).toList := by
  obtain ⟨name, v⟩ := f
  cases more with
  | nil =>
    rw [toList_writeFields_singleton]
    exact ⟨_, _, rfl, by decide, by decide, by decide⟩
  | cons f more =>
    rw [toList_writeFields_cons]
    exact ⟨_, _, rfl, by decide, by decide, by decide⟩

theorem reads_of_value {v : Value} (hopens : Opens (write v).toList)
    (hvalue : ∀ fuel rest, Ends rest →
      value (fuel + 1) ((write v).toList ++ rest) = some (v, rest)) : Reads v := by
  intro fuel rest hrest hfuel
  obtain ⟨c, s, hs, -⟩ := hopens
  rw [hs, List.length_cons] at hfuel
  obtain ⟨fuel, rfl⟩ := Nat.exists_eq_succ_of_ne_zero (by omega : fuel ≠ 0)
  exact hvalue fuel rest hrest

theorem reads_of_number {v : Value}
    (hhead : ∃ c s, (write v).toList = c :: s ∧ (c.isDigit = true ∨ c = '-'))
    (hnumber : ∀ rest, Ends rest → number ((write v).toList ++ rest) = some (v, rest)) :
    Reads v := by
  obtain ⟨c, s, hs, hc⟩ := hhead
  refine reads_of_value (hs ▸ opens_of_numeric hc s) fun fuel rest hrest => ?_
  have hread := hnumber rest hrest
  rw [hs, List.cons_append] at hread ⊢
  rw [value_of_numeric hc, hread]

theorem value_bracket {s : List Char} (h : Opens s) (fuel : Nat) :
    value (fuel + 1) ('[' :: s) = (items fuel s).bind fun (vs, rest) => some (.list vs, rest) := by
  have hskip := skipSpace_of_opens h
  obtain ⟨c, more, rfl, -, hc, -⟩ := h
  simp [value, hskip, hc]

theorem value_brace {s : List Char} (h : Opens s) (fuel : Nat) :
    value (fuel + 1) ('\x7b' :: s) =
      (fields fuel s).bind fun (fs, rest) => some (fs.elim .garbled .record, rest) := by
  have hskip := skipSpace_of_opens h
  obtain ⟨c, more, rfl, -, -, hc⟩ := h
  simp [value, hskip, hc]

/-- The items of a list, up to the closing bracket. -/
theorem items_write {vs : List Value} (hne : vs ≠ []) (hjson : ∀ v ∈ vs, IsJson v)
    (hreads : ∀ v ∈ vs, Reads v) {fuel : Nat} (hfuel : (writeItems vs).toList.length < fuel)
    (rest : List Char) : items fuel ((writeItems vs).toList ++ ']' :: rest) = some (vs, rest) := by
  induction vs generalizing fuel with
  | nil => exact absurd rfl hne
  | cons v more ih =>
    obtain ⟨fuel, rfl⟩ := Nat.exists_eq_succ_of_ne_zero (by omega : fuel ≠ 0)
    obtain ⟨hv, hmore⟩ := List.forall_mem_cons.1 hreads
    obtain ⟨-, hjson⟩ := List.forall_mem_cons.1 hjson
    cases more with
    | nil =>
      have hclose : Ends (']' :: rest) := fun c hc => .inr (.inl (Option.some.inj hc).symm)
      rw [writeItems] at hfuel ⊢
      rw [items, hv fuel _ hclose (by omega)]
      rfl
    | cons w more =>
      rw [toList_writeItems_cons, List.length_append, List.length_cons] at hfuel
      have hcomma : Ends (',' :: ((writeItems (w :: more)).toList ++ ']' :: rest)) :=
        fun c hc => .inl (Option.some.inj hc).symm
      have hopens := (opens_writeItems (hjson w (by simp)) more).append (']' :: rest)
      have hless : (writeItems (w :: more)).toList.length < fuel := by omega
      have hitems := ih (List.cons_ne_nil _ _) hjson hmore hless
      rw [toList_writeItems_cons, List.append_assoc, List.cons_append, items,
        hv fuel _ hcomma (by omega)]
      simp only [Option.bind_eq_bind, Option.bind_some, skipSpace_of_opens hopens, hitems,
        skipSpace_cons (by decide : isSpace ',' = false), Option.pure_def]

/-- The name of a field, up to its value. -/
theorem fields_name (fuel : Nat) (name : String) {tail : List Char} (h : Opens tail) :
    fields (fuel + 1) ('"' :: (name.toList.flatMap escapeChar ++ '"' :: ':' :: tail)) =
      (value fuel tail).bind fun (v, rest) =>
        match skipSpace rest with
        | '\x7d' :: rest => some (some [(name, v)], rest)
        | ',' :: rest => (fields fuel (skipSpace rest)).bind fun (more, rest) =>
            some (more.map fun more => (name, v) :: more, rest)
        | _ => none := by
  simp only [fields, text_flatMap_escapeChar, Option.bind_eq_bind, Option.bind_some,
    skipSpace_cons (by decide : isSpace ':' = false), skipSpace_of_opens h]
  rfl

/-- The fields of a record, up to the closing brace. -/
theorem fields_write {fs : List (String × Value)} (hne : fs ≠ [])
    (hjson : ∀ f ∈ fs, IsJson f.2) (hreads : ∀ f ∈ fs, Reads f.2) {fuel : Nat}
    (hfuel : (writeFields fs).toList.length < fuel) (rest : List Char) :
    fields fuel ((writeFields fs).toList ++ '\x7d' :: rest) = some (some fs, rest) := by
  induction fs generalizing fuel with
  | nil => exact absurd rfl hne
  | cons f more ih =>
    obtain ⟨name, v⟩ := f
    obtain ⟨fuel, rfl⟩ := Nat.exists_eq_succ_of_ne_zero (by omega : fuel ≠ 0)
    obtain ⟨(hv : Reads v), hmore⟩ := List.forall_mem_cons.1 hreads
    obtain ⟨(hjsonv : IsJson v), hjson⟩ := List.forall_mem_cons.1 hjson
    cases more with
    | nil =>
      have hclose : Ends ('\x7d' :: rest) := fun c hc => .inr (.inr (Option.some.inj hc).symm)
      rw [toList_writeFields_singleton] at hfuel ⊢
      simp only [List.length_cons, List.length_append] at hfuel
      simp only [List.cons_append, List.append_assoc]
      rw [fields_name fuel name ((opens_write hjsonv).append _), hv fuel _ hclose (by omega)]
      rfl
    | cons g more =>
      rw [toList_writeFields_cons] at hfuel ⊢
      simp only [List.length_cons, List.length_append] at hfuel
      have hcomma : Ends (',' :: ((writeFields (g :: more)).toList ++ '\x7d' :: rest)) :=
        fun c hc => .inl (Option.some.inj hc).symm
      have hopens := (opens_writeFields g more).append ('\x7d' :: rest)
      have hless : (writeFields (g :: more)).toList.length < fuel := by omega
      have hfields := ih (List.cons_ne_nil _ _) hjson hmore hless
      simp only [List.cons_append, List.append_assoc]
      rw [fields_name fuel name ((opens_write hjsonv).append _), hv fuel _ hcomma (by omega)]
      simp only [Option.bind_some, Option.map_some, skipSpace_of_opens hopens, hfields,
        skipSpace_cons (by decide : isSpace ',' = false)]

theorem reads_list {vs : List Value} (hjson : ∀ v ∈ vs, IsJson v) (hreads : ∀ v ∈ vs, Reads v) :
    Reads (.list vs) := by
  intro fuel rest _ hfuel
  rw [toList_write_list] at hfuel ⊢
  simp only [List.length_cons, List.length_append] at hfuel
  obtain ⟨fuel, rfl⟩ := Nat.exists_eq_succ_of_ne_zero (by omega : fuel ≠ 0)
  cases vs with
  | nil => rfl
  | cons v more =>
    have hopens := (opens_writeItems (hjson v (by simp)) more).append (']' :: rest)
    have hless : (writeItems (v :: more)).toList.length < fuel := by omega
    have hitems := items_write (List.cons_ne_nil v more) hjson hreads hless rest
    rw [List.cons_append, List.append_assoc, List.singleton_append, value_bracket hopens, hitems]
    rfl

theorem reads_record {fs : List (String × Value)} (hjson : ∀ f ∈ fs, IsJson f.2)
    (hreads : ∀ f ∈ fs, Reads f.2) : Reads (.record fs) := by
  intro fuel rest _ hfuel
  rw [toList_write_record] at hfuel ⊢
  simp only [List.length_cons, List.length_append] at hfuel
  obtain ⟨fuel, rfl⟩ := Nat.exists_eq_succ_of_ne_zero (by omega : fuel ≠ 0)
  cases fs with
  | nil => rfl
  | cons f more =>
    have hopens := (opens_writeFields f more).append ('\x7d' :: rest)
    have hless : (writeFields (f :: more)).toList.length < fuel := by omega
    have hfields := fields_write (List.cons_ne_nil f more) hjson hreads hless rest
    rw [List.cons_append, List.append_assoc, List.singleton_append, value_brace hopens, hfields]
    rfl

theorem reads_text (s : String) : Reads (.text s) := by
  refine reads_of_value (opens_write (.text s)) fun fuel rest _ => ?_
  rw [write, toList_writeText]
  simp [value, text_flatMap_escapeChar]

theorem reads_of_isJson {v : Value} (h : IsJson v) : Reads v := by
  induction h with
  | null => exact reads_of_value (opens_write .null) fun _ _ _ => rfl
  | bool b =>
    refine reads_of_value (opens_write (.bool b)) fun _ _ _ => ?_
    cases b <;> rfl
  | int n =>
    exact reads_of_number (exists_toString_eq_cons n) fun rest hrest => number_toString n hrest
  | float h =>
    exact reads_of_number (exists_eq_cons_of_isFloat h) fun rest hrest => number_of_isFloat h hrest
  | text s => exact reads_text s
  | list hjson ih => exact reads_list hjson ih
  | record hjson ih => exact reads_record hjson ih
  | garbled => exact reads_of_value (opens_write .garbled) fun _ _ _ => rfl

/-- What is written of a value is read as it. -/
theorem read?_write {v : Value} (h : IsJson v) : read? (write v) = some v := by
  have hvalue := reads_of_isJson h ((write v).toList.length + 1) [] (by simp [Ends]) (by omega)
  rw [List.append_nil] at hvalue
  simp only [read?, skipSpace_of_opens (opens_write h), hvalue]
  rfl

end ChainFeed.Json
