import LogSieve.Text.Basic

/-!
# Degrees of detail

* `Level` — how detailed an event is.  A bound on the detail includes the levels up to it.
* `Level.ofText?` — the level that a text names, in letters or as a number.
-/

namespace LogSieve

/-- A degree of detail, from none to the most detailed. -/
inductive Level where
  | off
  | error
  | warn
  | info
  | debug
  | trace
  deriving DecidableEq, Repr

namespace Level

def all : List Level :=
  [.off, .error, .warn, .info, .debug, .trace]

def name : Level → String
  | .off => "off"
  | .error => "error"
  | .warn => "warn"
  | .info => "info"
  | .debug => "debug"
  | .trace => "trace"

/-- The place of a level in the order of detail. -/
def rank : Level → Nat
  | .off => 0
  | .error => 1
  | .warn => 2
  | .info => 3
  | .debug => 4
  | .trace => 5

/-- Whether events of a level are shown up to a bound. -/
def includes (bound level : Level) : Bool :=
  level.rank ≤ bound.rank

/-- The number that decimal digits write, perhaps after a plus sign. -/
def number? (text : Text) : Option Nat :=
  let digits := match text with
    | '+' :: rest => rest
    | _ => text
  if digits.isEmpty || !digits.all Char.isDigit then none
  else some (digits.foldl (fun n digit => n * 10 + (digit.toNat - '0'.toNat)) 0)

/-- The level with a name, in letters of either case, or with a number. -/
def ofText? (text : Text) : Option Level :=
  match number? text with
  | some n => all[n]?
  | none => all.find? fun level => text.map Char.toLower == level.name.toList

end Level

end LogSieve
