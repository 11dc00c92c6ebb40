import ChainFeed.Toml.Instant
import ChainFeed.Toml.Table

/-!
# Reading TOML

A document is a row of lines: headers, keys with their values, and blank lines. The value of the
whole is a record.
-/

namespace ChainFeed.Toml

/-- Values are nested at most this deep, and keys have at most so many parts. -/
def depthLimit : Nat := 79

def isBareKeyChar (c : Char) : Bool :=
  ('a' ≤ c && c ≤ 'z') || ('A' ≤ c && c ≤ 'Z') || c.isDigit || c = '_' || c = '-'

def simpleKey (s : List Char) : Option (String × List Char) :=
  match s.takeWhile isBareKeyChar with
  | [] => lineText s
  | bare => some (String.ofList bare, s.drop bare.length)

def keyParts : Nat → List Char → Option (List String × List Char)
  | 0, _ => none
  | fuel + 1, s => do
    let (first, rest) ← simpleKey (skipSpace s)
    match skipSpace rest with
    | '.' :: rest => do
      let (more, rest) ← keyParts fuel rest
      return (first :: more, rest)
    | rest => return ([first], rest)

/-- A key as the way to its last part, and that part. -/
def key (s : List Char) : Option (List String × String × List Char) := do
  let (parts, rest) ← keyParts depthLimit s
  let last ← parts.getLast?
  return (parts.dropLast, last, rest)

def scalar (s : List Char) : Option (Value × List Char) :=
  match s with
  | '"' :: _ => (text s).map fun (t, rest) => (.text t, rest)
  | '\'' :: _ => (text s).map fun (t, rest) => (.text t, rest)
  | 't' :: 'r' :: 'u' :: 'e' :: rest => some (.bool true, rest)
  | 'f' :: 'a' :: 'l' :: 's' :: 'e' :: rest => some (.bool false, rest)
  | _ => instant s <|> float s <|> integer s

mutual

def value : Nat → Nat → List Char → Option (Value × List Char)
  | 0, _, _ => none
  | fuel + 1, depth, s =>
    match s with
    | '[' :: rest =>
      match depth with
      | 0 => none
      | depth + 1 =>
        match skipAll rest with
        | ']' :: rest => some (.list [], rest)
        | rest => do
          let (items, rest) ← items fuel depth rest
          return (.list items, rest)
    | '\x7b' :: rest =>
      match depth with
      | 0 => none
      | depth + 1 =>
        match skipSpace rest with
        | '\x7d' :: rest => some (.record [], rest)
        | rest => do
          let (fields, rest) ← pairs fuel depth [] rest
          return (.record (fieldsToValues fields), rest)
    | s => scalar s

/-- One item of an array or more, and the closing bracket. -/
def items : Nat → Nat → List Char → Option (List Value × List Char)
  | 0, _, _ => none
  | fuel + 1, depth, s => do
    let (v, rest) ← value fuel depth s
    match skipAll rest with
    | ']' :: rest => return ([v], rest)
    | ',' :: rest =>
      match skipAll rest with
      | ']' :: rest => return ([v], rest)
      | rest => do
        let (vs, rest) ← items fuel depth rest
        return (v :: vs, rest)
    | _ => none

/-- One key with its value or more, on one line, and the closing brace. -/
def pairs : Nat → Nat → Fields → List Char → Option (Fields × List Char)
  | 0, _, _, _ => none
  | fuel + 1, depth, fields, s => do
    let (path, last, rest) ← key s
    let rest ← char? '=' rest
    let (v, rest) ← value fuel depth (skipSpace rest)
    let fields ← fields.setValue [] path last v
    match skipSpace rest with
    | '\x7d' :: rest => return (fields, rest)
    | ',' :: rest => pairs fuel depth fields rest
    | _ => none

end

/-- A document as far as it has been read: its tables, and the way to the one that was opened
last. -/
structure Document where
  fields : Fields
  header : List String

def pairLine (d : Document) (s : List Char) : Option (Document × List Char) := do
  let (path, last, rest) ← key s
  let rest ← char? '=' rest
  let (v, rest) ← value (s.length + 1) depthLimit (skipSpace rest)
  return ({ d with fields := ← d.fields.setValue d.header path last v }, rest)

def headerLine (d : Document) : List Char → Option (Document × List Char)
  | '[' :: s => do
    let (path, last, rest) ← key s
    let rest ← char? ']' rest
    let rest ← char? ']' rest
    return (⟨← d.fields.openElement path last, path ++ [last]⟩, rest)
  | s => do
    let (path, last, rest) ← key s
    let rest ← char? ']' rest
    return (⟨← d.fields.openTable path last, path ++ [last]⟩, rest)

/-- Reads at most so many lines. -/
def document : Nat → Document → List Char → Option Document
  | 0, _, _ => none
  | fuel + 1, d, s =>
    match skipSpace s with
    | [] => some d
    | rest => do
      let (d, rest) ← match rest with
        | '[' :: rest => headerLine d rest
        | '#' :: _ => some (d, rest)
        | '\n' :: _ => some (d, rest)
        | '\r' :: _ => some (d, rest)
        | _ => pairLine d rest
      document fuel d (← lineEnd? rest)

/-- A mark of the byte order in front of a document is passed over. -/
def dropMark : List Char → List Char
  | '\ufeff' :: rest => rest
  | s => s

def read? (s : String) : Option Value :=
  (document (s.length + 1) ⟨[], []⟩ (dropMark s.toList)).map fun d =>
    .record (fieldsToValues d.fields)

end ChainFeed.Toml
