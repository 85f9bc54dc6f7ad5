import LogSieve.Text.Basic

/-!
# Command lines that lead to no run

A command line may ask for help or for the version instead of a run, or it may be wrong.  Either way
something is said and the tool ends.

* `Refusal` — the reasons.
* `Refusal.isRequested`, `Refusal.exitCode` — what was asked for is no error.
-/

namespace LogSieve

/-- The two things a tool can be asked for instead of a run. -/
inductive Flag where
  | help
  | version
  deriving DecidableEq, Repr

namespace Flag

def all : List Flag :=
  [.help, .version]

/-- The flag in full. -/
def longForm : Flag → String
  | .help => "--help"
  | .version => "--version"

def letter : Flag → Char
  | .help => 'h'
  | .version => 'V'

end Flag

/-- Why a command line leads to no run.  Where it bears on what is said, `complete` tells whether every
slot had its value before. -/
inductive Refusal where
  /-- Help or the version was asked for. -/
  | requested (flag : Flag)
  /-- A flag came with a value. -/
  | unexpectedValue (flag : Flag) (value : Octets) (complete : Bool)
  /-- An argument has the look of a flag, but its name is none and cannot be a value either. -/
  | unknownArgument (name : Octets) (complete : Bool)
  /-- The path of the log file is empty. -/
  | emptyPath
  /-- A value that has to be text is none. -/
  | notUtf8
  /-- Anything else that may be wrong, by the name of its kind. -/
  | other (kind : String)
  deriving DecidableEq, Repr

namespace Refusal

/-- Whether the tool was asked for what is said. -/
def isRequested : Refusal → Bool
  | .requested _ => true
  | _ => false

def exitCode (refusal : Refusal) : Nat :=
  if refusal.isRequested then 0 else 2

end Refusal

end LogSieve
