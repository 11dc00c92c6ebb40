/-!
# Document values

The values that JSON and TOML documents hold. Numbers with a fraction or an exponent are kept as
text, since no setting takes one. A record lists its fields in the order of the document. A text may
hold half of a character, and a record a name that does: there is nothing to be read in such a value,
but it can stand where it is passed over.
-/

namespace ChainFeed

inductive Value where
  | null
  | bool (b : Bool)
  | int (n : Int)
  | float (text : String)
  | text (s : String)
  | list (items : List Value)
  | record (fields : List (String × Value))
  | instant (text : String)
  | garbled
  deriving Inhabited

namespace Value

/-- The kinds of document, which differ in what they take for a setting of the right shape. -/
inductive Format where
  | json
  | toml
  deriving DecidableEq

def ofStrings (l : List String) : Value := .list (l.map .text)

def asBool? : Value → Option Bool
  | bool b => some b
  | _ => none

def asText? : Value → Option String
  | text s => some s
  | _ => none

/-- A whole number from zero up to but not including `bound`. -/
def asNat? (bound : Nat) : Value → Option Nat
  | int n => if 0 ≤ n ∧ n < bound then some n.toNat else none
  | _ => none

def asUInt8? (v : Value) : Option UInt8 := (v.asNat? UInt8.size).map Nat.toUInt8

def asUInt32? (v : Value) : Option UInt32 := (v.asNat? UInt32.size).map Nat.toUInt32

def asUInt64? (v : Value) : Option UInt64 := (v.asNat? UInt64.size).map Nat.toUInt64

def asList? {α : Type} (read : Value → Option α) : Value → Option (List α)
  | list items => items.mapM read
  | _ => none

/-- A setting that may be missing: `null` says that it is. -/
def asOption? {α : Type} (read : Value → Option α) : Value → Option (Option α)
  | null => some none
  | v => (read v).map some

def fieldOr {α : Type} (fields : List (String × Value)) (name : String) (default : α)
    (read : Value → Option α) : Option α :=
  match fields.lookup name with
  | none => some default
  | some v => read v

def field? {α : Type} (fields : List (String × Value)) (name : String)
    (read : Value → Option α) : Option α :=
  (fields.lookup name).bind read

/-- No name of `names` stands twice among the fields. Other fields are not looked at. -/
def namedOnce (names : List String) (fields : List (String × Value)) : Bool :=
  decide ((fields.map Prod.fst).filter (· ∈ names)).Nodup

theorem asNat?_int {bound n : Nat} (h : n < bound) : asNat? bound (.int n) = some n := by
  simp only [asNat?]
  rw [if_pos ⟨by omega, by omega⟩]
  simp

@[simp] theorem asUInt8?_int (n : UInt8) : asUInt8? (.int n.toNat) = some n := by
  simp [asUInt8?, asNat?_int (UInt8.toNat_lt_size n)]

@[simp] theorem asUInt64?_int (n : UInt64) : asUInt64? (.int n.toNat) = some n := by
  simp [asUInt64?, asNat?_int (UInt64.toNat_lt_size n)]

end Value

end ChainFeed
