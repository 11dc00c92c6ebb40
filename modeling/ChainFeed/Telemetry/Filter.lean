import ChainFeed.Data.Cut
import ChainFeed.Pattern.Basic
import ChainFeed.Text.Blank
import ChainFeed.Text.Bytewise
import ChainFeed.Text.Digits
import ChainFeed.Text.Unicode.Alphanumeric

/-!
# Log filters

A filter is a list of directives with commas between them. A directive names a target, a span with a
field in braces, and a level, each of which may be missing: `target[span{field=value}]=level`. A
name alone is a level if it can be one. The value of a field is a number, a truth value or a
pattern.
-/

namespace ChainFeed.Telemetry

inductive Level where
  | off
  | error
  | warn
  | info
  | debug
  | trace
  deriving DecidableEq

namespace Level

/-- The levels in the order of their numbers. -/
def all : List Level := [off, error, warn, info, debug, trace]

def name : Level → String
  | off => "off"
  | error => "error"
  | warn => "warn"
  | info => "info"
  | debug => "debug"
  | trace => "trace"

def ofNumber? (s : List Char) : Option Level :=
  let digits := match s with
    | '+' :: rest => rest
    | _ => s
  if digits.isEmpty || !digits.all Char.isDigit then none
  else all[Text.numberOf 10 digits]?

/-- A level by its number or by its name in any case. -/
def ofText? (s : List Char) : Option Level :=
  (ofNumber? s).or (all.find? fun l => l.name.toList = s.map Char.toLower)

end Level

/-- Takes a sign away. -/
def unsigned : List Char → List Char
  | '+' :: rest => rest
  | '-' :: rest => rest
  | s => s

/-- Nothing, or an exponent. -/
def isExponent : List Char → Bool
  | [] => true
  | e :: rest => e.toLower = 'e' && !(unsigned rest).isEmpty && (unsigned rest).all Char.isDigit

/-- A number with a point and an exponent, or one of the words for what is no number. -/
def isNumber (s : List Char) : Bool :=
  let body := unsigned s
  let mantissa := body.takeWhile fun c => c.isDigit || c = '.'
  (mantissa.any Char.isDigit && mantissa.count '.' ≤ 1 && isExponent (body.drop mantissa.length)) ||
    ["inf", "infinity", "nan"].contains (String.ofList (body.map Char.toLower))

def isFieldValue (s : List Char) : Bool := isNumber s || Pattern.isPattern s

structure Directive where
  target : Option String
  span : Option String
  fields : List String
  level : Level
  deriving DecidableEq

namespace Directive

def isNameStart (c : Char) : Bool := c = '-' || c = ':' || c = '_' || Text.isAlphanumeric c

/-- A directive as it is written, and without the blanks around it. What its parts say is looked up
in the first, at the places, counted in bytes, that the parts have in the second. -/
structure Source where
  whole : List Char
  trimmed : List Char

namespace Source

def ofList (whole : List Char) : Source := ⟨whole, Text.trimList whole⟩

def between? (s : Source) (rest stop : List Char) : Option (List Char) :=
  Text.byteRange? (Text.byteSize s.trimmed - Text.byteSize rest)
    (Text.byteSize rest - Text.byteSize stop) s.whole

def from? (s : Source) (rest : List Char) : Option (List Char) :=
  Text.dropBytes? (Text.byteSize s.trimmed - Text.byteSize rest) s.whole

end Source

/-- A field with the value that it is compared with, if there is one. -/
def field? (text : List Char) : Option String :=
  match text, cutAt (· == '=') text with
  | [], _ => none
  | _, _ :: value :: _ => if isFieldValue value then some (String.ofList text) else none
  | _, _ => some (String.ofList text)

def fieldPart? (source : Source) (s : List Char) : Option (List String × List Char) := do
  let stop := s.dropWhile (· ≠ '\x7d')
  let field ← field? (← source.between? s stop)
  match stop with
  | '\x7d' :: ']' :: rest => return ([field], rest)
  | _ => none

/-- A span behind its opening bracket. -/
def spanPart? (source : Source) (s : List Char) : Option (String × List String × List Char) := do
  let stop := s.dropWhile fun c => c ≠ ']' && c ≠ '\x7b'
  let name := String.ofList (← source.between? s stop)
  match stop with
  | ']' :: rest => return (name, [], rest)
  | '\x7b' :: rest => do
    let (fields, rest) ← fieldPart? source rest
    return (name, fields, rest)
  | _ => none

/-- The level behind an equals sign. An empty one lets everything through. -/
def level? (text : List Char) : Option Level :=
  if text.isEmpty then some .trace else Level.ofText? text

/-- Adds the level that `rest` asks for, if anything is left. -/
def withLevel (source : Source) (rest : List Char) (d : Directive) : Option Directive :=
  match rest with
  | [] => some d
  | '=' :: text => do
    let level ← level? (← source.from? text)
    return { d with level }
  | _ => none

def ofName (name : List Char) : Directive :=
  match Level.ofText? name with
  | some level => ⟨none, none, [], level⟩
  | none => ⟨some (String.ofList name), none, [], .trace⟩

def withSpan (source : Source) (target : Option String) (rest : List Char) :
    Option Directive := do
  let (span, fields, rest) ← spanPart? source rest
  withLevel source rest ⟨target, some span, fields, .trace⟩

def read? (whole : List Char) : Option Directive :=
  let source := Source.ofList whole
  let s := source.trimmed
  match s with
  | [] => none
  | '[' :: rest => withSpan source none rest
  | c :: _ =>
    if !isNameStart c then none
    else
      match s.dropWhile fun c => c ≠ '=' && c ≠ '[' with
      | [] => some (ofName whole)
      | stop@(c :: rest) => do
        let target := String.ofList (← source.between? s stop)
        if c = '[' then withSpan source (some target) rest
        else withLevel source stop ⟨some target, none, [], .trace⟩

end Directive

/-- The directives of a filter. Empty ones are passed over. -/
def readFilter? (s : String) : Option (List Directive) :=
  ((cutAt (· == ',') s.toList).filter fun part => !part.isEmpty).mapM Directive.read?

end ChainFeed.Telemetry
