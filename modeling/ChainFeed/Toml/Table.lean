import ChainFeed.Value.Basic

/-!
# Tables under construction

A document fills tables step by step, and may not say a thing twice. What may still be added to a
table depends on how it came to be: a header opens a table once, even one that a longer header has
implied before, while keys with dots go on with the tables that such keys have made.
-/

namespace ChainFeed.Toml

inductive Origin where
  | header
  /-- The table stands on the way to the table of a header. -/
  | implied
  /-- The table stands on the way to the value of a key with dots. -/
  | dotted
  deriving DecidableEq

inductive Item where
  | value (v : Value)
  | table (origin : Origin) (fields : List (String × Item))
  /-- The tables of an array, the latest at the end. -/
  | tables (elements : List (List (String × Item)))
  deriving Inhabited

abbrev Fields := List (String × Item)

namespace Fields

/-- Puts an item under a key, in the place of the one that is there. -/
def put (fields : Fields) (key : String) (item : Item) : Fields :=
  if (fields.lookup key).isSome then
    fields.map fun (k, i) => if k = key then (k, item) else (k, i)
  else fields ++ [(key, item)]

/-- Changes the table at the end of a path, and makes the tables on the way that are missing. By a
path of dots, no table is entered that a header has opened. The latest table of an array stands for
the array. -/
def change (dots : Bool) (f : Origin → Fields → Option Fields) :
    List String → Origin → Fields → Option Fields
  | [], origin, fields => f origin fields
  | key :: path, _, fields =>
    match fields.lookup key with
    | none => do
      let origin := if dots then .dotted else .implied
      let inner ← change dots f path origin []
      return fields.put key (.table origin inner)
    | some (.value _) => none
    | some (.table origin inner) => do
      if dots && origin = .header then none
      else return fields.put key (.table origin (← change dots f path origin inner))
    | some (.tables elements) =>
      match elements.getLast? with
      | none => none
      | some last => do
        let last ← change dots f path .header last
        return fields.put key (.tables (elements.dropLast ++ [last]))

/-- A new value. A table on the way of a key with dots takes no value of a key without. -/
def addValue (hasDots : Bool) (key : String) (v : Value) (origin : Origin) (fields : Fields) :
    Option Fields :=
  if hasDots != (origin = .dotted) then none
  else if (fields.lookup key).isSome then none
  else some (fields.put key (.value v))

/-- Sets the value of a key in the table that the last header has opened. -/
def setValue (header : List String) (path : List String) (key : String) (v : Value)
    (fields : Fields) : Option Fields :=
  fields.change false
    (fun origin inner => change true (addValue (!path.isEmpty) key v) path origin inner)
    header .header

/-- Opens a table, unless one of this name was opened before. -/
def openTable (path : List String) (key : String) (fields : Fields) : Option Fields :=
  fields.change false
    (fun _ inner =>
      match inner.lookup key with
      | none => some (inner.put key (.table .header []))
      | some (.table .implied content) => some (inner.put key (.table .header content))
      | some _ => none)
    path .header

/-- Opens one more table of an array. -/
def openElement (path : List String) (key : String) (fields : Fields) : Option Fields :=
  fields.change false
    (fun _ inner =>
      match inner.lookup key with
      | none => some (inner.put key (.tables [[]]))
      | some (.tables elements) => some (inner.put key (.tables (elements ++ [[]])))
      | some _ => none)
    path .header

end Fields

mutual

def Item.toValue : Item → Value
  | .value v => v
  | .table _ fields => .record (fieldsToValues fields)
  | .tables elements => .list (elementsToValues elements)

def fieldsToValues : List (String × Item) → List (String × Value)
  | [] => []
  | (key, item) :: rest => (key, item.toValue) :: fieldsToValues rest

def elementsToValues : List (List (String × Item)) → List Value
  | [] => []
  | fields :: rest => .record (fieldsToValues fields) :: elementsToValues rest

end

end ChainFeed.Toml
