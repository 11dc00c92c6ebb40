import ChainFeed.Data.Outcome
import ChainFeed.Proofs.Address.Checksum

/-!
# Texts of symbols

A text of lower-case letters, a separator and symbols is taken apart again as it is and in upper
case. Whatever is taken apart is such a text, in one of the two.
-/

namespace ChainFeed.Bech32

theorem cut?_separator (front : List Char) {rest : List Char} (h : '1' ∉ rest) :
    cut? (front ++ '1' :: rest) = some (front, rest) := by
  have hreverse : (front ++ '1' :: rest).reverse = rest.reverse ++ '1' :: front.reverse := by simp
  have hrest : ∀ c ∈ rest.reverse, decide (c ≠ '1') = true := by
    intro c hc
    rw [decide_eq_true_iff]
    rintro rfl
    exact h (List.mem_reverse.1 hc)
  rw [cut?, hreverse, List.dropWhile_append_of_pos hrest, List.takeWhile_append_of_pos hrest,
    List.dropWhile_cons_of_neg (by decide), List.takeWhile_cons_of_neg (by decide)]
  simp

theorem eq_append_of_cut? {text front rest : List Char} (h : cut? text = some (front, rest)) :
    text = front ++ '1' :: rest := by
  have hparts := List.takeWhile_append_dropWhile (p := (decide <| · ≠ '1')) (l := text.reverse)
  unfold cut? at h
  cases hdrop : text.reverse.dropWhile (decide <| · ≠ '1') with
  | nil =>
    rw [hdrop] at h
    cases h
  | cons c others =>
    rw [hdrop] at h hparts
    obtain ⟨rfl, rfl⟩ := Prod.mk.inj (Option.some.inj h)
    have hc : c = '1' := by
      have hhead := List.head?_dropWhile_not (decide <| · ≠ '1') text.reverse
      rw [hdrop] at hhead
      simpa using hhead
    have htext := congrArg List.reverse hparts
    rw [List.reverse_reverse, hc, List.reverse_append, List.reverse_cons,
      List.append_assoc] at htext
    exact htext.symm

/-- How a text of lower case is written: as it is, or in upper case. -/
inductive Casing where
  | lower
  | upper

def Casing.write : Casing → Char → Char
  | lower => id
  | upper => Char.toUpper

def letters : List Char := "abcdefghijklmnopqrstuvwxyz".toList

theorem toLower_of_isUpper_eq_false {c : Char} (h : c.isUpper = false) : c.toLower = c := by
  unfold Char.isUpper at h
  unfold Char.toLower
  rw [dif_neg]
  simpa using h

theorem toUpper_toLower {c : Char} (h : c.isLower = false) : c.toLower.toUpper = c := by
  have hnot : ¬ ('a'.val ≤ c.val ∧ c.val ≤ 'z'.val) := by
    unfold Char.isLower at h
    simpa using h
  by_cases hupper : 'A'.val ≤ c.val ∧ c.val ≤ 'Z'.val
  · have hlower : c.toLower.val = c.val + ('a'.val - 'A'.val) := by
      unfold Char.toLower
      rw [dif_pos hupper]
    have hrange : 'a'.val ≤ c.toLower.val ∧ c.toLower.val ≤ 'z'.val := by
      have hA : 'A'.val.toNat = 65 := rfl
      have hZ : 'Z'.val.toNat = 90 := rfl
      have ha : 'a'.val.toNat = 97 := rfl
      have hz : 'z'.val.toNat = 122 := rfl
      have hstep : ('a'.val - 'A'.val).toNat = 32 := rfl
      rw [hlower]
      simp only [UInt32.le_iff_toNat_le, UInt32.toNat_add] at hupper ⊢
      omega
    apply Char.ext
    unfold Char.toUpper
    rw [dif_pos hrange]
    dsimp only
    rw [hlower, UInt32.add_assoc]
    exact UInt32.add_zero _
  · have hsame : c.toLower = c := by
      unfold Char.toLower
      exact dif_neg hupper
    rw [hsame]
    unfold Char.toUpper
    exact dif_neg hnot

/-- A text without letters of both cases is written in one of them. -/
theorem exists_write_of_not_isMixedCase {text : List Char} (h : isMixedCase text = false) :
    ∃ k : Casing, text = (text.map Char.toLower).map k.write := by
  rw [isMixedCase, Bool.and_eq_false_iff, List.any_eq_false, List.any_eq_false] at h
  rcases h with hupper | hlower
  · have hsame : text.map Char.toLower = text.map id :=
      List.map_congr_left fun c hc => toLower_of_isUpper_eq_false (by simpa using hupper c hc)
    exact ⟨.lower, by rw [Casing.write, List.map_id, hsame, List.map_id]⟩
  · have hback : text.map (Char.toUpper ∘ Char.toLower) = text.map id :=
      List.map_congr_left fun c hc => toUpper_toLower (by simpa using hlower c hc)
    exact ⟨.upper, by rw [Casing.write, List.map_map, hback, List.map_id]⟩

theorem symbolChar_of_symbol? {c : Char} {s : Symbol} (h : symbol? c = some s) :
    symbolChar s = c.toLower := by
  obtain ⟨k, hk, rfl⟩ := Option.map_eq_some_iff.1 h
  obtain ⟨hlt, hc, _⟩ := List.findIdx?_eq_some_iff_getElem.1 hk
  have hvalue : (BitVec.ofNat 5 k).toNat = k := by
    rw [BitVec.toNat_ofNat]
    exact Nat.mod_eq_of_lt hlt
  rw [symbolChar, hvalue, List.getD_eq_getElem?_getD, List.getElem?_eq_getElem hlt,
    Option.getD_some]
  exact eq_of_beq hc

/-- The parts that a text is taken apart into are those of the text in lower case. -/
theorem eq_of_parts? {text hrp : List Char} {symbols : List Symbol}
    (h : parts? text = some (hrp, symbols)) : isMixedCase text = false ∧
      text.map Char.toLower = hrp ++ '1' :: symbols.map symbolChar := by
  unfold parts? at h
  split at h
  · cases h
  · next hcase =>
    obtain ⟨⟨front, rest⟩, hcut, h⟩ := Option.bind_eq_some_iff.1 h
    dsimp only at h
    split at h
    · cases h
    · obtain ⟨found, hfound, h⟩ := Option.bind_eq_some_iff.1 h
      obtain ⟨rfl, rfl⟩ := Prod.mk.inj (Option.some.inj h)
      have hsymbols : found.map symbolChar = rest.map Char.toLower :=
        Outcome.map_of_mapM (fun _ _ => symbolChar_of_symbol?) hfound
      refine ⟨Bool.eq_false_iff.2 hcase, ?_⟩
      rw [eq_append_of_cut? hcut, List.map_append, List.map_cons, hsymbols]
      rfl

section casing
variable (k : Casing) {hrp : List Char} (symbols : List Symbol)

theorem symbol?_write (s : Symbol) : symbol? (k.write (symbolChar s)) = some s := by
  cases k with
  | lower => exact symbol?_symbolChar s
  | upper => exact symbol?_toUpper_symbolChar s

theorem mapM_symbol?_write :
    ((symbols.map symbolChar).map k.write).mapM symbol? = some symbols := by
  rw [List.map_map]
  exact Outcome.mapM_map_of_inverse (fun s => symbol?_write k s) symbols

theorem separator_not_mem_write :
    '1' ∉ (symbols.map symbolChar).map k.write := by
  have hne : ∀ s : Symbol, k.write (symbolChar s) ≠ '1' := by
    cases k with
    | lower => exact symbolChar_ne_separator
    | upper => exact (by decide : ∀ s : Symbol, (symbolChar s).toUpper ≠ '1')
  simpa using fun s _ => hne s

theorem write_letter {c : Char} (hc : c ∈ letters) :
    33 ≤ (k.write c).toNat ∧ (k.write c).toNat ≤ 126 ∧ (k.write c).toLower = c := by
  have hall : letters.all (fun c => decide (33 ≤ (k.write c).toNat ∧ (k.write c).toNat ≤ 126 ∧
      (k.write c).toLower = c)) = true := by
    cases k <;> decide
  exact of_decide_eq_true (List.all_eq_true.1 hall c hc)

/-- A text has no letters of both cases if it is written in one. -/
theorem isMixedCase_write (hhrp : ∀ c ∈ hrp, c ∈ letters) :
    isMixedCase ((hrp ++ '1' :: symbols.map symbolChar).map k.write) = false := by
  have hany {p : Char → Bool} (hletters : letters.any p = false) (hseparator : p '1' = false)
      (hsymbol : ∀ s : Symbol, p (symbolChar s) = false) :
      (hrp ++ '1' :: symbols.map symbolChar).any p = false := by
    rw [List.any_eq_false] at hletters
    rw [List.any_append, List.any_cons, hseparator, Bool.false_or, Bool.or_eq_false_iff,
      List.any_eq_false, List.any_map, List.any_eq_false]
    exact ⟨fun c hc => hletters c (hhrp c hc), fun s _ => by simp [hsymbol s]⟩
  rw [isMixedCase, List.any_map, List.any_map, Bool.and_eq_false_iff]
  cases k with
  | lower => exact .inl (hany (by decide) rfl (by decide))
  | upper => exact .inr (hany (by decide) rfl (by decide))

theorem parts?_write (hhrp : ∀ c ∈ hrp, c ∈ letters) (hne : hrp ≠ []) (hlength : hrp.length ≤ 83) :
    parts? ((hrp ++ '1' :: symbols.map symbolChar).map k.write) = some (hrp, symbols) := by
  have hcut : cut? ((hrp ++ '1' :: symbols.map symbolChar).map k.write) =
      some (hrp.map k.write, (symbols.map symbolChar).map k.write) := by
    have hseparator : k.write '1' = '1' := by cases k <;> rfl
    rw [List.map_append, List.map_cons, hseparator]
    exact cut?_separator _ (separator_not_mem_write k symbols)
  have hisHrp : isHrp (hrp.map k.write) = true := by
    have hvisible (c : Char) (hc : c ∈ hrp) := write_letter k (hhrp c hc)
    simpa [isHrp, hne, hlength] using fun c hc => ⟨(hvisible c hc).1, (hvisible c hc).2.1⟩
  have hlower : (hrp.map k.write).map Char.toLower = hrp := by
    rw [List.map_map]
    exact (List.map_congr_left fun c hc => (write_letter k (hhrp c hc)).2.2).trans
      (List.map_id _)
  have hcase := isMixedCase_write k symbols hhrp
  rw [parts?, hcut, if_neg (by rw [hcase]; decide)]
  simp only [Option.bind_eq_bind, Option.bind_some, hisHrp, mapM_symbol?_write, hlower]
  rfl

end casing

end ChainFeed.Bech32
