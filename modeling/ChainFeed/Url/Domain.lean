import ChainFeed.Data.Cut
import ChainFeed.Text.Punycode
import ChainFeed.Text.Unicode.Direction
import ChainFeed.Text.Unicode.Joining
import ChainFeed.Url.Folding

/-!
# Names of hosts

A name is a row of labels between points. It is kept in ASCII: letters in lower case, and a label
with other characters in the form that begins with `xn--`.
-/

namespace ChainFeed.Url

def nonJoiner : Char := '\u200c'

def joiner : Char := '\u200d'

/-- Whether a joiner or a non-joiner has a use: behind a sign that takes a vowel away, or, to part
them, between two letters that would join. `before` is nearest first. -/
def mayStand (before : List Char) (c : Char) (behind : List Char) : Bool :=
  before.head?.any Text.isVowelKiller ||
    (c = nonJoiner && (before.dropWhile Text.isMark).head?.any Text.joinsNext &&
      (behind.dropWhile Text.isMark).head?.any Text.joinsLast)

def joinersFrom (before : List Char) : List Char → Bool
  | [] => true
  | c :: rest =>
    ((c ≠ joiner && c ≠ nonJoiner) || mayStand before c rest) && joinersFrom (c :: before) rest

/-- Whether characters can form a label. A mark needs a character to combine with. -/
def isLabel (s : List Char) : Bool :=
  s.all isNameChar && !(s.head?.any fun c => Text.isMark c && isPlain c) && joinersFrom [] s

/-- Whether the order of a label is plain when it stands beside text from right to left: it begins
with a letter, runs in one direction, and ends with a letter or a digit. -/
def isOrdered (s : List Char) : Bool :=
  let directions := s.map Text.direction
  let last := (directions.reverse.dropWhile (· = .mark)).head?
  match directions with
  | [] => true
  | .left :: _ =>
    directions.all (fun d => d ≠ .right && d ≠ .arabicDigit) &&
      (last = some .left || last = some .digit)
  | .right :: _ =>
    directions.all (· ≠ .left) && last ≠ some .neutral &&
      !(directions.contains .digit && directions.contains .arabicDigit)
  | _ => false

def runsRight (s : List Char) : Bool :=
  s.any fun c => Text.direction c = .right || Text.direction c = .arabicDigit

structure Label where
  text : List Char
  ascii : List Char

def asciiMark : List Char := "xn--".toList

/-- A label in either form. The form in ASCII is for labels that need it. -/
def Label.ofList? (s : List Char) : Option Label := do
  let label ← if asciiMark.isPrefixOf s then do
      let text ← Punycode.decode? (s.drop asciiMark.length)
      if text.all isPlain && text.any (fun c => !Punycode.isBasic c) then some ⟨text, s⟩ else none
    else if s.all Punycode.isBasic then some ⟨s, s⟩
    else some ⟨s, asciiMark ++ Punycode.encode s⟩
  if isLabel label.text then return label else none

def asciiName? (s : List Char) : Option (List Char) := do
  let labels ← (cutAt (· == '.') (s.flatMap folded)).mapM Label.ofList?
  let texts := labels.map Label.text
  if texts.any runsRight && !(texts.all isOrdered) then none
  return ((labels.map Label.ascii).intersperse ['.']).flatten

end ChainFeed.Url
