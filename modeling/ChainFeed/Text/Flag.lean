import ChainFeed.Text.Blank
import ChainFeed.Text.Lower

/-!
# Flags

A flag in a text setting: one of three words for each value, in any case and between blanks.
-/

namespace ChainFeed.Text

/-- The form in which a flag is looked up. -/
def flagWord (s : String) : String := lower (trim s)

def flag? (s : String) : Option Bool :=
  let word := flagWord s
  if word = "true" || word = "1" || word = "yes" then some true
  else if word = "false" || word = "0" || word = "no" then some false
  else none

end ChainFeed.Text
