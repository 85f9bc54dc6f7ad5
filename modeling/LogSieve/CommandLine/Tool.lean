import LogSieve.Text.Basic

/-!
# The two tools

Two tools share everything but their command line.  One selects the lines of a fixed tag and wants a
log file; the other wants the tag as well.

* `Tool.slots` — the values a tool wants, in the order in which they are given.
* `Tool.usageLine` — how a tool is called, for a user who left something out.
-/

namespace LogSieve

/-- A value that a tool wants. -/
inductive Slot where
  | traceType
  | logFile
  deriving DecidableEq, Repr

inductive Tool where
  /-- Selects the lines of function traces. -/
  | fixedTag
  /-- Selects the lines of a tag given on the command line. -/
  | chosenTag
  deriving DecidableEq, Repr

namespace Slot

def label : Slot → String
  | .traceType => "TRACE_TYPE"
  | .logFile => "PATH_TO_LOG_FILE"

/-- A slot as something that may be left out. -/
def bracketed (slot : Slot) : Text :=
  '[' :: (slot.label.toList ++ "]".toList)

end Slot

namespace Tool

def slots : Tool → List Slot
  | .fixedTag => [.logFile]
  | .chosenTag => [.traceType, .logFile]

def name : Tool → String
  | .fixedTag => "ftrace-log-filter"
  | .chosenTag => "trace-log-filter"

def versionLine (tool : Tool) : Text :=
  tool.name.toList ++ " 0.1.0".toList

/-- What a tool is for. -/
def purpose : Tool → String
  | .fixedTag => "Print the [ftrace] lines of a log file"
  | .chosenTag => "Print the [<trace_type>] lines of a log file"

/-- How a tool is called, for a user who left out a value. -/
def usageLine : Tool → String
  | .fixedTag => "Usage: ftrace-log-filter <path_to_log_file>"
  | .chosenTag => "Usage: trace-log-filter <trace_type> <path_to_log_file>"

/-- The slots of a tool in one line, each as something that may be left out. -/
def slotLine (tool : Tool) : Text :=
  " ".toList.intercalate (tool.slots.map Slot.bracketed)

end Tool

end LogSieve
