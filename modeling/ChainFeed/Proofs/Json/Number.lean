import ChainFeed.Json.Reader
import ChainFeed.Json.Writer
import Mathlib.Data.List.TakeWhile

/-!
# Numbers in JSON

A number is read up to its last digit and no further, and what is written of a whole number is read
as that number, however large it is. Other numbers are kept as they are written.
-/

namespace ChainFeed.Json

/-- What follows a value: nothing, or the next place in a list or an object. -/
def Ends (rest : List Char) : Prop :=
  ∀ c, rest.head? = some c → c = ',' ∨ c = ']' ∨ c = '\x7d'

/-- Digits without a leading zero, unless that is all. -/
structure IsWhole (digits : List Char) : Prop where
  ne_nil : digits ≠ []
  isDigit : ∀ c ∈ digits, c.isDigit = true
  head : digits.head? = some '0' → digits.length ≤ 1

def IsFraction (s : List Char) : Prop :=
  s = [] ∨ ∃ digits, s = '.' :: digits ∧ digits ≠ [] ∧ ∀ c ∈ digits, c.isDigit = true

/-- An exponent is kept with a small mark. -/
def IsExponent (s : List Char) : Prop :=
  s = [] ∨ ∃ mark digits, s = mark ++ digits ∧ mark ∈ [['e'], ['e', '+'], ['e', '-']] ∧
    digits ≠ [] ∧ ∀ c ∈ digits, c.isDigit = true

/-- The text of a number that is no whole number, in the form in which it is kept. -/
def IsFloat (text : String) : Prop :=
  ∃ (negative : Bool) (whole fraction exponent : List Char),
    IsWhole whole ∧ IsFraction fraction ∧ IsExponent exponent ∧
    (fraction ≠ [] ∨ exponent ≠ [] ∨ negative = true ∧ whole = ['0']) ∧
    text.toList = (if negative then ['-'] else []) ++ whole ++ fraction ++ exponent

section
variable {digits rest : List Char}

theorem takeWhile_digits (hdigits : ∀ c ∈ digits, c.isDigit = true)
    (hrest : ∀ c, rest.head? = some c → c.isDigit = false) :
    (digits ++ rest).takeWhile Char.isDigit = digits := by
  rw [List.takeWhile_append_of_pos hdigits]
  cases rest with
  | nil => simp
  | cons c rest => simp [hrest c rfl]

theorem dropWhile_digits (hdigits : ∀ c ∈ digits, c.isDigit = true)
    (hrest : ∀ c, rest.head? = some c → c.isDigit = false) :
    (digits ++ rest).dropWhile Char.isDigit = rest := by
  rw [List.dropWhile_append_of_pos hdigits]
  cases rest with
  | nil => simp
  | cons c rest => simp [hrest c rfl]

theorem Ends.not_isDigit (h : Ends rest) : ∀ c, rest.head? = some c → c.isDigit = false := by
  intro c hc
  obtain rfl | rfl | rfl := h c hc <;> rfl

theorem markedDigits_append (mark : List Char) (hne : digits ≠ [])
    (hdigits : ∀ c ∈ digits, c.isDigit = true)
    (hrest : ∀ c, rest.head? = some c → c.isDigit = false) :
    markedDigits mark (digits ++ rest) = some (mark ++ digits, rest) := by
  rw [markedDigits, takeWhile_digits hdigits hrest, dropWhile_digits hdigits hrest,
    if_neg (by simpa using hne)]

theorem fractionPart_append {fraction : List Char} (h : IsFraction fraction)
    (hrest : ∀ c, rest.head? = some c → c.isDigit = false ∧ c ≠ '.') :
    fractionPart (fraction ++ rest) = some (fraction, rest) := by
  obtain rfl | ⟨digits, rfl, hne, hdigits⟩ := h
  · unfold fractionPart
    split
    · next hpoint => exact absurd rfl (hrest '.' (by rw [← List.nil_append rest, hpoint]; rfl)).2
    · rfl
  · exact markedDigits_append ['.'] hne hdigits fun c hc => (hrest c hc).1

theorem exponentPart_append {exponent : List Char} (h : IsExponent exponent) (hrest : Ends rest) :
    exponentPart (exponent ++ rest) = some (exponent, rest) := by
  obtain rfl | ⟨mark, digits, rfl, hmark, hne, hdigits⟩ := h
  · cases rest with
    | nil => rfl
    | cons c rest => obtain rfl | rfl | rfl := hrest c rfl <;> rfl
  · have hmarked (mark : List Char) := markedDigits_append mark hne hdigits hrest.not_isDigit
    simp only [List.mem_cons, List.not_mem_nil, or_false] at hmark
    obtain rfl | rfl | rfl := hmark
    · -- the first digit is neither of the signs
      cases digits with
      | nil => exact absurd rfl hne
      | cons d digits =>
        have hplus : d ≠ '+' := by rintro rfl; exact absurd (hdigits '+' (by simp)) (by decide)
        have hminus : d ≠ '-' := by rintro rfl; exact absurd (hdigits '-' (by simp)) (by decide)
        rw [← hmarked ['e']]
        simp [exponentPart, hplus, hminus]
    · exact hmarked _
    · exact hmarked _

theorem numberParts_append {whole fraction exponent : List Char} (hwhole : IsWhole whole)
    (hfraction : IsFraction fraction) (hexponent : IsExponent exponent) (hrest : Ends rest) :
    numberParts (whole ++ (fraction ++ (exponent ++ rest))) =
      some (whole, fraction, exponent, rest) := by
  have hexponentHead : ∀ c, (exponent ++ rest).head? = some c → c.isDigit = false ∧ c ≠ '.' := by
    intro c hc
    obtain rfl | ⟨mark, digits, rfl, hmark, -⟩ := hexponent
    · obtain rfl | rfl | rfl := hrest c hc <;> decide
    · simp only [List.mem_cons, List.not_mem_nil, or_false] at hmark
      obtain rfl | rfl | rfl := hmark <;>
      · obtain rfl : 'e' = c := by simpa using hc
        decide
  have hfractionHead : ∀ c, (fraction ++ (exponent ++ rest)).head? = some c →
      c.isDigit = false := by
    obtain rfl | ⟨digits, rfl, -⟩ := hfraction
    · exact fun c hc => (hexponentHead c hc).1
    · intro c hc
      obtain rfl : '.' = c := by simpa using hc
      rfl
  have hzero : ¬ (whole.isEmpty || whole.head? == some '0' && decide (1 < whole.length)) = true := by
    simpa [hwhole.ne_nil] using hwhole.head
  rw [numberParts, takeWhile_digits hwhole.isDigit hfractionHead,
    dropWhile_digits hwhole.isDigit hfractionHead]
  simp only [if_neg hzero, fractionPart_append hfraction hexponentHead, Option.bind_eq_bind,
    Option.bind_some, exponentPart_append hexponent hrest, Option.pure_def]

/-- A number with all its parts. -/
theorem number_append (negative : Bool) {whole fraction exponent : List Char}
    (hwhole : IsWhole whole) (hfraction : IsFraction fraction) (hexponent : IsExponent exponent)
    (hrest : Ends rest) :
    number ((if negative then ['-'] else []) ++ (whole ++ (fraction ++ (exponent ++ rest)))) =
      some (if fraction.isEmpty && exponent.isEmpty && !(negative && Text.numberOf 10 whole == 0)
        then .int (if negative then -Text.numberOf 10 whole else Text.numberOf 10 whole)
        else .float (String.ofList
          ((if negative then ['-'] else []) ++ whole ++ fraction ++ exponent)), rest) := by
  have hparts := numberParts_append hwhole hfraction hexponent hrest
  cases negative with
  | true =>
    simp only [number, if_true, List.cons_append, List.nil_append, hparts, Option.bind_eq_bind,
      Option.bind_some]
    split <;> rfl
  | false =>
    obtain ⟨d, digits, rfl⟩ := List.exists_cons_of_ne_nil hwhole.ne_nil
    have hsign : d ≠ '-' := by
      rintro rfl
      exact absurd (hwhole.isDigit '-' (by simp)) (by decide)
    simp only [Bool.false_eq_true, if_false, List.nil_append, List.cons_append] at hparts ⊢
    unfold number
    split
    next negative rest' h =>
      split at h
      · next hd => exact absurd (List.cons.inj hd).1 hsign
      · obtain ⟨rfl, rfl⟩ := Prod.mk.inj h
        simp only [hparts, Option.bind_eq_bind, Option.bind_some]
        split <;> rfl

end

theorem toDigits_of_pos {n : Nat} (h : 0 < n) :
    Nat.toDigits 10 n = (Radix.digits 10 n).map Nat.digitChar := by
  induction n using Nat.strongRecOn with
  | ind n ih =>
    rw [Radix.digits_of_pos (by omega) h, List.map_append]
    by_cases hlt : n < 10
    · rw [Nat.toDigits_of_lt_base hlt, Nat.div_eq_of_lt hlt, Nat.mod_eq_of_lt hlt,
        Radix.digits_zero]
      rfl
    · rw [Nat.toDigits_of_base_le (by omega) (by omega), ih (n / 10) (by omega) (by omega)]
      rfl

theorem isWhole_toDigits (n : Nat) : IsWhole (Nat.toDigits 10 n) := by
  refine ⟨Nat.toDigits_ne_nil, fun c hc => Nat.isDigit_of_mem_toDigits (by omega) (by omega) hc,
    fun h => ?_⟩
  obtain rfl | hn := Nat.eq_zero_or_pos n
  · simp
  · rw [toDigits_of_pos hn, List.head?_map, Option.map_eq_some_iff] at h
    obtain ⟨d, hd, hzero⟩ := h
    have hlt : d < 10 := Radix.lt_of_mem_digits (List.mem_of_head? hd)
    have hchar : ∀ d < 10, Nat.digitChar d = '0' → d = 0 := by decide
    exact absurd (hchar d hlt hzero ▸ hd) (Radix.head?_digits 10 n)

theorem numberOf_toDigits (n : Nat) : Text.numberOf 10 (Nat.toDigits 10 n) = n := by
  obtain rfl | hn := Nat.eq_zero_or_pos n
  · rfl
  · have hdigits : (Nat.toDigits 10 n).map (fun c => (Hex.digitValue? c).getD 0) =
        Radix.digits 10 n := by
      rw [toDigits_of_pos hn, List.map_map]
      refine (List.map_congr_left fun d hd => ?_).trans (List.map_id _)
      have hlt : d < 10 := Radix.lt_of_mem_digits hd
      simp [Hex.digitValue?_digitChar d (by omega)]
    rw [Text.numberOf, hdigits, Radix.ofDigits_digits (by omega)]

theorem toList_toString (n : Int) : (toString n).toList =
    (if decide (n < 0) then ['-'] else []) ++ Nat.toDigits 10 n.natAbs := by
  cases n with
  | ofNat m => simp [toString, Int.repr, Nat.repr_eq_ofList_toDigits]
  | negSucc m => simp [toString, Int.repr, Nat.repr_eq_ofList_toDigits, Int.negSucc_lt_zero]

/-- What is written of a whole number is read as it. -/
theorem number_toString (n : Int) {rest : List Char} (hrest : Ends rest) :
    number ((toString n).toList ++ rest) = some (.int n, rest) := by
  have hnumber := number_append (decide (n < 0)) (isWhole_toDigits n.natAbs) (.inl rfl) (.inl rfl)
    hrest
  rw [List.nil_append, List.nil_append, ← List.append_assoc, ← toList_toString] at hnumber
  have habs : (if decide (n < 0) then -(n.natAbs : Int) else n.natAbs) = n := by
    by_cases hn : n < 0
    · rw [if_pos (decide_eq_true hn)]
      omega
    · rw [if_neg (by simpa using hn)]
      omega
  have hzero : (decide (n < 0) && n.natAbs == 0) = false := by
    rw [Bool.and_eq_false_iff, decide_eq_false_iff_not, beq_eq_false_iff_ne]
    omega
  rw [hnumber, numberOf_toDigits, habs, hzero]
  rfl

theorem number_of_isFloat {text : String} (h : IsFloat text) {rest : List Char}
    (hrest : Ends rest) : number (text.toList ++ rest) = some (.float text, rest) := by
  obtain ⟨negative, whole, fraction, exponent, hwhole, hfraction, hexponent, hkept, htext⟩ := h
  have hnumber := number_append negative hwhole hfraction hexponent hrest
  have hnot : ¬ (fraction.isEmpty && exponent.isEmpty &&
      !(negative && Text.numberOf 10 whole == 0)) = true := by
    obtain h | h | ⟨rfl, rfl⟩ := hkept
    · simp [h]
    · simp [h]
    · simp [show Text.numberOf 10 ['0'] = 0 from rfl]
  rw [if_neg hnot, ← htext, String.ofList_toList] at hnumber
  rw [htext]
  simpa only [List.append_assoc] using hnumber

end ChainFeed.Json
