/-!
# Blanks, comments and line ends

What stands between the parts of a TOML document. A comment runs to the end of its line, and a line
ends in a line feed, with or without a carriage return before it.
-/

namespace ChainFeed.Toml

def isSpace (c : Char) : Bool := c = ' ' || c = '\t'

def skipSpace (s : List Char) : List Char := s.dropWhile isSpace

/-- A control may stand nowhere in a document, except for tabs and line ends. -/
def isControl (c : Char) : Bool := (c.toNat < 0x20 && c != '\t') || c.toNat = 0x7f

def newline? : List Char → Option (List Char)
  | '\n' :: rest => some rest
  | '\r' :: '\n' :: rest => some rest
  | _ => none

def skipComment : List Char → List Char
  | '#' :: rest => rest.dropWhile fun c => !isControl c
  | s => s

/-- What follows the end of a line or of the document, behind blanks and a comment. -/
def lineEnd? (s : List Char) : Option (List Char) :=
  match skipComment (skipSpace s) with
  | [] => some []
  | rest => newline? rest

/-- Skips blanks, comments and line ends, at most `fuel` of them. -/
def skipLines : Nat → List Char → List Char
  | 0, s => s
  | fuel + 1, s =>
    let rest := skipSpace s
    match newline? rest with
    | some rest => skipLines fuel rest
    | none =>
      match rest with
      | '#' :: _ =>
        match newline? (skipComment rest) with
        | some rest => skipLines fuel rest
        | none => rest
      | _ => rest

/-- Skips everything up to the next part of a list. -/
def skipAll (s : List Char) : List Char := skipLines (s.length + 1) s

end ChainFeed.Toml
