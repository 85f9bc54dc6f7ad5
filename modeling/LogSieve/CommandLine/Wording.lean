import LogSieve.CommandLine.Refusal
import LogSieve.CommandLine.Tool
import LogSieve.Line.Basic
import LogSieve.Path
import LogSieve.Text.ControlSequence
import LogSieve.Text.Utf8

/-!
# The wording of help and refusals

What the standard reader of command lines says about a command line that leads to no run.  The tools
run with it; nothing that is said about them rests on it.

* `Tool.calledName` — the name under which a tool is spoken of.
* `Refusal.message` — the wording, which ends with a line feed.
-/

namespace LogSieve

/-- The name under which a tool was called, given the octets it was called by.  If they name no file
or are no text, the tool goes by its own name. -/
def Tool.calledName (tool : Tool) (program : Option Octets) : Text :=
  match (program.bind Path.name?).bind Utf8.decode? with
  | some name => name
  | none => tool.name.toList

namespace Refusal

def slotHelp : Slot → String
  | .traceType => "  [TRACE_TYPE]        Trace tag to keep (e.g., ftrace, itrace, mtrace)"
  | .logFile => "  [PATH_TO_LOG_FILE]  Log file to filter"

def helpLines (tool : Tool) (name : Text) : List Text :=
  [tool.purpose.toList, [], "Usage: ".toList ++ name ++ ' ' :: tool.slotLine, [], "Arguments:".toList] ++
    tool.slots.map (fun slot => (slotHelp slot).toList) ++
    [[], "Options:".toList, "  -h, --help     Print help".toList,
      "  -V, --version  Print version".toList]

/-- The last line of a complaint. -/
def moreInformation : Text :=
  "For more information, try '--help'.".toList

/-- The values named in the usage after some were given.  Once every slot of the tool with a chosen
tag is filled, they are named as alternatives, the left-over ones included. -/
def operands (tool : Tool) (complete : Bool) : Text :=
  if tool = .chosenTag ∧ complete then "<TRACE_TYPE|PATH_TO_LOG_FILE|IGNORED>".toList
  else tool.slotLine

/-- What a user typed, as far as a terminal may be shown it. -/
def quoted (octets : Octets) : Text :=
  ControlSequence.visible (Utf8.lossy octets)

def lines (tool : Tool) (name : Text) : Refusal → List Text
  | .requested .help => helpLines tool name
  | .requested .version => [tool.versionLine]
  | .unexpectedValue flag value complete =>
    ["error: unexpected value '".toList ++ quoted value ++ "' for '".toList ++
        flag.longForm.toList ++ "' found; no more were expected".toList,
      [],
      "Usage: ".toList ++ name ++ ' ' :: flag.longForm.toList ++ ' ' :: operands tool complete,
      [],
      moreInformation]
  | .unknownArgument argument complete =>
    ["error: unexpected argument '".toList ++ quoted argument ++ "' found".toList,
      [],
      "  tip: to pass '".toList ++ quoted argument ++ "' as a value, use '-- ".toList ++
        quoted argument ++ "'".toList,
      [],
      "Usage: ".toList ++ name ++ ' ' :: operands tool complete,
      [],
      moreInformation]
  | .emptyPath =>
    ["error: a value is required for '".toList ++ Slot.logFile.bracketed ++
        "' but none was supplied".toList,
      [],
      moreInformation]
  | .notUtf8 =>
    ["error: invalid UTF-8 was detected in one or more arguments".toList,
      [],
      "Usage: ".toList ++ name ++ ' ' :: tool.slotLine,
      [],
      moreInformation]
  | .other kind => ["error: ".toList ++ kind.toList, [], moreInformation]

/-- What is said about a tool that was called by a name.  Names and values are quoted without the
control sequences in them. -/
def message (tool : Tool) (name : Text) (refusal : Refusal) : Text :=
  Line.close (refusal.lines tool (ControlSequence.visible name))

end Refusal

end LogSieve
