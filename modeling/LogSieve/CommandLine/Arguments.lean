import LogSieve.CommandLine.Tool
import LogSieve.Failure
import LogSieve.Tag
import LogSieve.Text.Utf8

/-!
# What a command line asks for

The slots of a tool are filled with the values on its command line.  From what stands in them the tool
makes a request, or it finds that a value is missing.

* `Arguments` — what stands in the slots, and the values left over.  `Arguments.put` adds one more
  value in front.
* `Arguments.request` — the run that is asked for.
-/

namespace LogSieve

structure Arguments where
  traceType : Option Text := none
  logFile : Option Octets := none
  /-- The values beyond the last slot. -/
  surplus : List Text := []
  deriving DecidableEq, Repr

/-- What a run needs to know. -/
structure Request where
  tag : Tag
  logFile : Octets
  deriving DecidableEq, Repr

namespace Arguments

/-- Puts a value into a slot, or in front of those left over.  A tag is text and so is what is left
over; the path of a log file may be any octets. -/
def put (slot? : Option Slot) (value : Octets) (rest : Arguments) : Arguments :=
  match slot? with
  | some .traceType => { rest with traceType := Utf8.decode? value }
  | some .logFile => { rest with logFile := some value }
  | none => { rest with surplus := (Utf8.decode? value).toList ++ rest.surplus }

/-- The run that a command line asks for.  A value that is missing is answered with the usage
line. -/
def request (tool : Tool) (arguments : Arguments) : Except Failure Request :=
  match tool, arguments.traceType, arguments.logFile with
  | .fixedTag, _, some logFile => .ok ⟨Tag.ftrace, logFile⟩
  | .chosenTag, some traceType, some logFile => .ok ⟨⟨traceType⟩, logFile⟩
  | _, _, _ => .error (.usage tool.usageLine.toList)

end Arguments

end LogSieve
