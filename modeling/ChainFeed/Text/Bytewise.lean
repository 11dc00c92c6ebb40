/-!
# Text by bytes

Places in a text counted in the bytes that its characters take. A place inside of a character is
none.
-/

namespace ChainFeed.Text

def byteSize : List Char → Nat
  | [] => 0
  | c :: rest => c.utf8Size + byteSize rest

def dropBytes? : Nat → List Char → Option (List Char)
  | 0, l => some l
  | _ + 1, [] => none
  | n + 1, c :: rest => if c.utf8Size ≤ n + 1 then dropBytes? (n + 1 - c.utf8Size) rest else none

def takeBytes? : Nat → List Char → Option (List Char)
  | 0, _ => some []
  | _ + 1, [] => none
  | n + 1, c :: rest =>
    if c.utf8Size ≤ n + 1 then (takeBytes? (n + 1 - c.utf8Size) rest).map (c :: ·) else none

def byteRange? (start count : Nat) (l : List Char) : Option (List Char) :=
  (dropBytes? start l).bind (takeBytes? count)

end ChainFeed.Text
