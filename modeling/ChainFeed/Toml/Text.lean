import ChainFeed.Bytes.Hex
import ChainFeed.Toml.Layout

/-!
# Strings

Basic strings stand in double quotes and have escapes, literal strings stand in single quotes and
have none. Three quotes open a string of several lines, in which every line end is a line feed; one
right behind the opening quotes is left out.
-/

namespace ChainFeed.Toml

/-- The character whose number is written in `count` digits. -/
def numberedChar (count : Nat) (s : List Char) : Option (Char × List Char) := do
  let digits ← (s.take count).mapM Hex.digitValue?
  let n := digits.foldl (fun n d => 16 * n + d) 0
  if digits.length = count && (n < 0xd800 || (0xdfff < n && n < 0x110000)) then
    return (Char.ofNat n, s.drop count)
  else none

def escape : List Char → Option (Char × List Char)
  | 'b' :: rest => some ('\x08', rest)
  | 't' :: rest => some ('\t', rest)
  | 'n' :: rest => some ('\n', rest)
  | 'f' :: rest => some ('\x0c', rest)
  | 'r' :: rest => some ('\r', rest)
  | '"' :: rest => some ('"', rest)
  | '\\' :: rest => some ('\\', rest)
  | 'u' :: rest => numberedChar 4 rest
  | 'U' :: rest => numberedChar 8 rest
  | _ => none

/-- A basic string of one line behind its opening quote, after `read` in reverse. -/
def basicLine : Nat → List Char → List Char → Option (String × List Char)
  | 0, _, _ => none
  | _ + 1, _, [] => none
  | _ + 1, read, '"' :: rest => some (String.ofList read.reverse, rest)
  | fuel + 1, read, '\\' :: rest =>
    match escape rest with
    | some (c, rest) => basicLine fuel (c :: read) rest
    | none => none
  | fuel + 1, read, c :: rest => if isControl c then none else basicLine fuel (c :: read) rest

/-- A literal string of one line behind its opening quote. -/
def literalLine (s : List Char) : Option (String × List Char) :=
  let content := s.takeWhile fun c => c != '\'' && !isControl c
  match s.drop content.length with
  | '\'' :: rest => some (String.ofList content, rest)
  | _ => none

/-- Skips blanks and line ends, at most `fuel` of the latter. -/
def skipEmptyLines : Nat → List Char → List Char
  | 0, s => skipSpace s
  | fuel + 1, s =>
    match newline? (skipSpace s) with
    | some rest => skipEmptyLines fuel rest
    | none => skipSpace s

/-- What follows a backslash that ends its line: the next text on any line. -/
def joinLines? (s : List Char) : Option (List Char) :=
  (newline? (skipSpace s)).map fun rest => skipEmptyLines rest.length rest

/-- The closing quotes of a string of several lines, and the quotes in front of them that belong to
the string. -/
def closing? (quote : Char) (s : List Char) : Option (List Char × List Char) :=
  let count := (s.takeWhile (· = quote)).length
  if count < 3 then none
  else
    let own := min (count - 3) 2
    some (List.replicate own quote, s.drop (own + 3))

/-- A string of several lines behind its opening quotes, after `read` in reverse. -/
def severalLines (quote : Char) : Nat → List Char → List Char → Option (String × List Char)
  | 0, _, _ => none
  | fuel + 1, read, s =>
    match closing? quote s with
    | some (own, rest) => some (String.ofList (read.reverse ++ own), rest)
    | none =>
      match newline? s with
      | some rest => severalLines quote fuel ('\n' :: read) rest
      | none =>
        match s with
        | [] => none
        | c :: rest =>
          if c = '\\' && quote = '"' then
            match joinLines? rest with
            | some rest => severalLines quote fuel read rest
            | none =>
              match escape rest with
              | some (c, rest) => severalLines quote fuel (c :: read) rest
              | none => none
          else if isControl c then none
          else severalLines quote fuel (c :: read) rest

def dropNewline (s : List Char) : List Char := (newline? s).getD s

def lineText : List Char → Option (String × List Char)
  | '"' :: rest => basicLine (rest.length + 1) [] rest
  | '\'' :: rest => literalLine rest
  | _ => none

def text : List Char → Option (String × List Char)
  | '"' :: '"' :: '"' :: rest => severalLines '"' (rest.length + 1) [] (dropNewline rest)
  | '\'' :: '\'' :: '\'' :: rest => severalLines '\'' (rest.length + 1) [] (dropNewline rest)
  | s => lineText s

end ChainFeed.Toml
