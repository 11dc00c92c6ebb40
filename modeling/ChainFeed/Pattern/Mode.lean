import ChainFeed.Text.Blank

/-!
# Modes of a pattern

Letters between a question mark and the end of a group's opening change how what follows is read.
Only three of them decide whether a pattern can be matched.
-/

namespace ChainFeed.Pattern

structure Mode where
  caseless : Bool
  /-- The pattern is about characters, and not about bytes. -/
  unicode : Bool
  /-- Blanks and comments are passed over. -/
  verbose : Bool
  deriving DecidableEq

namespace Mode

def standard : Mode := ⟨false, true, false⟩

/-- Passes over blanks and over comments, which reach from a number sign to the end of the line. -/
def skipFrom (inComment : Bool) : List Char → List Char
  | [] => []
  | c :: rest =>
    if inComment then skipFrom (c != '\n') rest
    else if Text.isBlank c then skipFrom false rest
    else if c = '#' then skipFrom true rest
    else c :: rest

def skip (m : Mode) (s : List Char) : List Char := if m.verbose then skipFrom false s else s

/-- The next character that is not passed over. A comment counts from its first mark on. -/
def peek? (m : Mode) (s : List Char) : Option Char :=
  if m.verbose then
    let inner := match s.dropWhile Text.isBlank with
      | '#' :: comment => comment.dropWhile Text.isBlank
      | other => other
    inner.head?.or s.head?
  else s.head?

def letters : List Char := ['i', 'm', 's', 'U', 'u', 'R', 'x']

/-- Whether each letter stands at most once, and a minus at most once and before a letter. -/
def areChanges (text : List Char) : Bool :=
  text.all (fun c => c = '-' || letters.contains c) && text.eraseDups.length == text.length &&
    text.getLast? != some '-'

/-- Switches the letters before a minus on and the others off. -/
def change (m : Mode) (text : List Char) : Mode :=
  let on := text.takeWhile (· ≠ '-')
  let off := text.drop on.length
  let switch (letter : Char) (old : Bool) : Bool :=
    on.contains letter || (old && !off.contains letter)
  ⟨switch 'i' m.caseless, switch 'u' m.unicode, switch 'x' m.verbose⟩

end Mode

end ChainFeed.Pattern
