import LogSieve.Tag
import LogSieve.Text.Utf8

/-!
# Events

What a run does is noted as *events*.  They are diagnostics for whoever looks for the reason of a
result, never part of the result.

* `Event.origin` — the part of the program that notes the event; verbosity is set by origin.
* `Event.fields` — the names of its particulars; verbosity may be set by them too.
* `Event.text` — the line that shows the event.
-/

namespace LogSieve

inductive Event where
  | read (path : Octets) (size : Nat)
  /-- A log turned out not to be UTF-8 on a line. -/
  | illEncoded (path : Octets) (line : Nat)
  | selected (tag : Tag) (count : Nat)
  deriving DecidableEq, Repr

namespace Event

/-- The part of the program an event comes from. -/
def origin : Event → String
  | .read .. | .illEncoded .. => "trace_log_filter::infrastructure::log_file"
  | .selected .. => "trace_log_filter::application::filter_log"

/-- The names of the particulars of an event; the message is the first of them. -/
def fields : Event → List String
  | .read .. => ["message", "path", "bytes"]
  | .illEncoded .. => ["message", "path", "line"]
  | .selected .. => ["message", "prefix", "matched"]

/-- What happened, with the particulars. -/
def message : Event → Text
  | .read path size =>
    "read log file path=".toList ++ Utf8.lossy path ++ " bytes=".toList ++ Text.ofNat size
  | .illEncoded path line =>
    "log file is not valid UTF-8 path=".toList ++ Utf8.lossy path ++ " line=".toList ++
      Text.ofNat line
  | .selected tag count =>
    "filtered log prefix=".toList ++ tag.marker ++ " matched=".toList ++ Text.ofNat count

/-- The event as it is shown, without the end of the line. -/
def text (event : Event) : Text :=
  "DEBUG ".toList ++ event.origin.toList ++ ": ".toList ++ event.message

end Event

end LogSieve
