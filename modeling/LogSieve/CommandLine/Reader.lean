import LogSieve.CommandLine.Arguments
import LogSieve.CommandLine.Refusal

/-!
# Readers of command lines

A tool does not read its command line itself.  It declares its slots, each of which may be left out
and may be given a value with a hyphen in front, and a *reader* gives back what stands in them, or a
refusal.  Readers are not part of the tools.  What is said about a tool holds whatever its reader does,
or it names what the reader is relied upon for:

* `CommandReader` — a reader, as a tool sees it.
* `Walk` — the decisions of a reader that goes through its arguments one by one: what an argument is,
  whether a value fits its slot, and whether anything is wrong in the end.  `Walk.read` carries them
  out.
* `CommandReader.Follows` — what readers promise: they go through their arguments in that way, and they
  take for a value whatever has no hyphen in front.

What a walk decides about an argument may depend on the slots that still wait for a value, on `--` and
on values that did not fit.  It does not depend on slots that have a value that fits.
-/

namespace LogSieve

/-- What reads the command lines of tools. -/
structure CommandReader where
  /-- What stands in some slots after some arguments, or why there is nothing. -/
  read : List Slot → List Octets → Except Refusal Arguments
  /-- What is said about a refusal, given the octets that the tool was called by. -/
  message : Tool → Option Octets → Refusal → Text

/-- The command line of a tool. -/
def CommandReader.parse (reader : CommandReader) (tool : Tool) (arguments : List Octets) :
    Except Refusal Arguments :=
  reader.read tool.slots arguments

/-! ## One argument after the other -/

/-- The octet in front of flags. -/
def Argument.hyphen : UInt8 :=
  0x2D

/-- How far a walk has come. -/
structure Progress where
  /-- The slots that wait for a value, in their order. -/
  vacant : List Slot
  /-- Whether there has been a value for which no slot was left. -/
  overflowing : Bool := false
  /-- Whether `--` has been met. -/
  literal : Bool := false
  /-- What is wrong with the values that do not fit. -/
  misfits : List Refusal := []
  deriving DecidableEq, Repr

/-- What an argument is. -/
inductive Verdict where
  | value
  /-- All that it says is that whatever follows is a value. -/
  | endOfFlags
  | refused (refusal : Refusal)
  deriving DecidableEq, Repr

/-- The decisions of a reader. -/
structure Walk where
  judge : Progress → Octets → Verdict
  /-- What is wrong with a value for a slot, or for none. -/
  misfit? : Option Slot → Octets → Option Refusal
  /-- What is wrong when there are no more arguments. -/
  close : Progress → Option Refusal

namespace Walk

/-- Takes a value for the first slot that waits for one. -/
def take (walk : Walk) (progress : Progress) (value : Octets) : Progress :=
  { progress with
    vacant := progress.vacant.tail
    overflowing := progress.vacant.isEmpty
    misfits := progress.misfits ++ (walk.misfit? progress.vacant.head? value).toList }

def readFrom (walk : Walk) : Progress → List Octets → Except Refusal Arguments
  | progress, [] =>
    match walk.close progress with
    | some refusal => .error refusal
    | none => .ok {}
  | progress, argument :: rest =>
    match walk.judge progress argument with
    | .refused refusal => .error refusal
    | .endOfFlags => walk.readFrom { progress with literal := true } rest
    | .value =>
      (walk.readFrom (walk.take progress argument) rest).map
        (Arguments.put progress.vacant.head? argument)

def read (walk : Walk) (slots : List Slot) (arguments : List Octets) : Except Refusal Arguments :=
  walk.readFrom { vacant := slots } arguments

end Walk

/-! ## What is relied upon -/

/-- What readers promise to whoever declares slots. -/
structure CommandReader.Follows (reader : CommandReader) (walk : Walk) : Prop where
  /-- Arguments are read from left to right, and their values go to the slots in the order in which
  the slots were declared. -/
  read_eq : ∀ slots arguments, reader.read slots arguments = walk.read slots arguments
  /-- Unless something is wrong with an earlier value, an argument without a hyphen in front is a
  value. -/
  value_of_plain : ∀ (progress : Progress) (argument : Octets), progress.misfits = [] →
    argument.head? ≠ some Argument.hyphen → walk.judge progress argument = .value
  /-- A slot for text takes any text. -/
  misfit?_text : ∀ text, walk.misfit? (some .traceType) (Text.encode text) = none

end LogSieve
