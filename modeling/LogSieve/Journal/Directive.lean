import LogSieve.Journal.Basic
import LogSieve.Journal.Level
import LogSieve.Journal.Pattern
import LogSieve.Text.Blank

/-!
# Directives

A directive sets a bound on the detail of some events.  In full it is written

    origin[span{field=pattern}]=level

and each part may be left out: `level` alone is meant for all events, `origin` alone lets everything
from there through, and what stands in brackets narrows the directive down to events with a field,
or to those noted inside a span.

* `Directive` — the parts.  `Directive.isLasting` tells whether a directive says anything about
  events outside spans, and all events are.
* `Directive.ofText?` — reading one.  The *shape* of a directive is that of the text without the
  blanks at its ends, but the parts are taken from the text with them, at the same number of octets.
  So blanks in front shift every part, and a part may even begin or end inside a character, which is
  the end of the reading.
* `Directive.covers`, `Directive.outranks` — the events that a directive is meant for, and which of
  two directives for an event decides.
-/

namespace LogSieve

/-- A field that an event must have, and the pattern that its value must match if there is one. -/
structure FieldFilter where
  name : Text
  value : Option Text
  deriving DecidableEq, Repr

namespace FieldFilter

/-- The text after the digits that it begins with, and whether there are any. -/
def dropDigits (text : Text) : Text × Bool :=
  (text.dropWhile Char.isDigit, (text.takeWhile Char.isDigit).length > 0)

/-- Whether a text is an exponent, or nothing. -/
def isExponent : Text → Bool
  | [] => true
  | c :: rest =>
    let digits := match rest with
      | '+' :: digits | '-' :: digits => digits
      | _ => rest
    (c = 'e' || c = 'E') && !digits.isEmpty && digits.all Char.isDigit

/-- Whether a text is a decimal number without a sign.  The words for infinity and for what is no
number count. -/
def isUnsigned (text : Text) : Bool :=
  let (afterWhole, hasWhole) := dropDigits text
  let (afterFraction, hasFraction) := match afterWhole with
    | '.' :: rest => dropDigits rest
    | _ => (afterWhole, false)
  ((hasWhole || hasFraction) && isExponent afterFraction) ||
    ["inf", "infinity", "nan"].any (·.toList == text.map Char.toLower)

/-- Whether a value can be compared with: a pattern, or a number with a plus sign, which as a pattern
would repeat nothing. -/
def isValue : Text → Bool
  | '+' :: rest => isUnsigned rest
  | text => Pattern.isValid text

/-- The field filter that a text writes: a name, and perhaps a value after an equals sign. -/
def ofText? (text : Text) : Option FieldFilter :=
  let name := text.takeWhile (· ≠ '=')
  match text.dropWhile (· ≠ '=') with
  | [] => if text.isEmpty then none else some ⟨name, none⟩
  | _ :: rest =>
    let value := rest.takeWhile (· ≠ '=')
    if isValue value then some ⟨name, some value⟩ else none

end FieldFilter

/-- A bound on the detail of some events. -/
structure Directive where
  /-- How the names of the origins begin that the bound is for; nothing stands for all of them. -/
  origin : Text := []
  span : Option Text := none
  field : Option FieldFilter := none
  bound : Level := .trace
  deriving DecidableEq, Repr

namespace Directive

/-! ## Reading -/

/-- The part of a text between two numbers of octets. -/
def part (text : Text) (first last : Nat) : Except SettingFault Text :=
  match text.slice? first last with
  | some part => .ok part
  | none => .error .fatal

/-- The bound that the text from some octet on names; nothing lets everything through. -/
def boundFrom (text : Text) (first : Nat) : Except SettingFault Level := do
  let name ← part text first (Text.octetCount text)
  if name.isEmpty then .ok .trace
  else
    match Level.ofText? name with
    | some level => .ok level
    | none => .error .malformed

/-- A directive whose brackets are closed: `shape`, which begins at the octet `at_`, is empty or
gives a bound. -/
def close (text : Text) (directive : Directive) (at_ : Nat) (shape : Text) :
    Except SettingFault Directive :=
  match shape with
  | [] => .ok directive
  | '=' :: _ => return { directive with bound := ← boundFrom text (at_ + 1) }
  | _ => .error .malformed

/-- A directive from its field on: `shape` begins at the octet `at_`, after the brace. -/
def readField (text : Text) (directive : Directive) (at_ : Nat) (shape : Text) :
    Except SettingFault Directive := do
  let field := shape.takeWhile (· ≠ '\x7d')
  let last := at_ + Text.octetCount field
  match shape.dropWhile (· ≠ '\x7d') with
  | [] => .error .malformed
  | _ :: rest =>
    match FieldFilter.ofText? (← part text at_ last) with
    | none => .error .malformed
    | some filter =>
      match rest with
      | ']' :: rest => close text { directive with field := some filter } (last + 2) rest
      | _ => .error .malformed

/-- A directive from its span on: `shape` begins at the octet `at_`, after the bracket.  A span
without a name is no condition if a field follows. -/
def readSpan (text : Text) (directive : Directive) (at_ : Nat) (shape : Text) :
    Except SettingFault Directive := do
  let inSpan : Char → Bool := fun c => c ≠ ']' && c ≠ '\x7b'
  let last := at_ + Text.octetCount (shape.takeWhile inSpan)
  match shape.dropWhile inSpan with
  | [] => .error .malformed
  | ']' :: rest =>
    let span ← part text at_ last
    close text { directive with span := some span } (last + 1) rest
  | _ :: rest =>
    let span ← part text at_ last
    let named := if span.isEmpty then directive else { directive with span := some span }
    readField text named (last + 1) rest

/-- Whether a directive that does not begin with a bracket may begin with a character. -/
def isOpening (c : Char) : Bool :=
  c = '-' || c = ':' || c = '_' || isAlphanumeric c

/-- The directive that is a single word: a level, or an origin. -/
def ofWord (text : Text) : Directive :=
  match Level.ofText? text with
  | some bound => { bound }
  | none => { origin := text }

def ofText? (text : Text) : Except SettingFault Directive := do
  let shape := text.trim
  match shape with
  | [] => .error .malformed
  | '[' :: rest => readSpan text {} 1 rest
  | first :: _ =>
    if !isOpening first then .error .malformed
    else
      let inOrigin : Char → Bool := fun c => c ≠ '=' && c ≠ '['
      let last := Text.octetCount (shape.takeWhile inOrigin)
      match shape.dropWhile inOrigin with
      | [] => .ok (ofWord text)
      | '=' :: _ =>
        let origin ← part text 0 last
        return { origin, bound := ← boundFrom text (last + 1) }
      | _ :: rest =>
        let origin ← part text 0 last
        readSpan text { origin } (last + 1) rest

/-! ## Meaning -/

/-- Whether a directive says anything about events outside spans. -/
def isLasting (directive : Directive) : Bool :=
  directive.span.isNone && (directive.field.all (·.value.isNone))

def covers (directive : Directive) (event : Event) : Bool :=
  directive.origin.isPrefixOf event.origin.toList &&
    directive.field.all fun filter => event.fields.any (·.toList == filter.name)

/-- Whether the first of two directives for an event decides even if the second is given later: the
one with the longer origin, then the one with a field, then the one with the later name of it. -/
def outranks (first second : Directive) : Bool :=
  if first.origin.length ≠ second.origin.length then second.origin.length < first.origin.length
  else
    match first.field, second.field with
    | some a, some b => b.name < a.name
    | some _, none => true
    | none, _ => false

end Directive

end LogSieve
