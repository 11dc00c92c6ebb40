import ChainFeed.Text.Unicode.Cased
import ChainFeed.Text.Unicode.LowerMap

/-!
# Lower case

Every character maps to its counterpart, with two exceptions: a capital I with a dot becomes two
characters, and a capital sigma at the end of a word becomes the final form of the letter.
-/

namespace ChainFeed.Text

/-- Whether the nearest character that counts for case is cased. -/
def nextIsCased (l : List Char) : Bool :=
  match l.dropWhile isCaseIgnorable with
  | [] => false
  | c :: _ => isCased c

/-- `before` holds the characters already passed, nearest first. -/
def lowerFrom (before : List Char) : List Char → List Char
  | [] => []
  | c :: rest =>
    let low :=
      if c = 'Σ' then
        if nextIsCased before && !nextIsCased rest then ['ς'] else ['σ']
      else if c = 'İ' then ['i', '\u0307']
      else [lowerChar c]
    low ++ lowerFrom (c :: before) rest

def lower (s : String) : String := String.ofList (lowerFrom [] s.toList)

end ChainFeed.Text
