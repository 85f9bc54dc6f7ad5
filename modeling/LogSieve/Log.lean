import LogSieve.Journal.Account
import LogSieve.Selection

/-!
# Logs and where they come from

A log is read in one piece and decoded strictly: nothing in it is replaced or left out, and octets
that are no text are refused with the line they stand on.

* `Log.receive` — turns what a file holds into a log, or into the reason why it is none.
* `Source` — anything that answers a path with a log.
* `selectLoaded` — the lines of a tag in the log at a path, for whatever the log is loaded from.
  `Source.select` is that for a source.
-/

namespace LogSieve

structure Log where
  path : Octets
  content : Text
  deriving DecidableEq, Repr

namespace Log

/-- The text in front of the first octet that is wrong.  It is decoded anew from the octets it takes
up, and the empty text would stand in for it if that failed. -/
def validHead (octets : Octets) : Text :=
  (Utf8.decode? (octets.take (Utf8.validUpTo octets))).getD []

/-- The log that some octets are, or a failure with the line of the first octet that is wrong. -/
def ofOctets (path octets : Octets) : Except Failure Log :=
  match Utf8.decode? octets with
  | some content => .ok ⟨path, content⟩
  | none => .error (.illEncoded path (Line.numberAfter (validHead octets)))

/-- The events of decoding: the size of what was read, and a refusal if there is one. -/
def events (path octets : Octets) : List Event :=
  .read path octets.length ::
    match ofOctets path octets with
    | .error (.illEncoded path line) => [.illEncoded path line]
    | _ => []

/-- The account of reading the log at a path, given what the file system answered. -/
def receive (path : Octets) : Except Fault Octets → Account Log
  | .error fault => .failed (.unreadable path fault)
  | .ok octets => ⟨events path octets, ofOctets path octets⟩

end Log

abbrev Source := Octets → Account Log

/-- The lines of a tag in the log at a path, wherever the log comes from.  The log is asked for once,
and the whole of it is there before any line is selected. -/
def selectLoaded {m : Type → Type} [Monad m] (load : Octets → m (Account Log)) (path : Octets)
    (tag : Tag) : m (Account (List Line)) := do
  let log ← load path
  return log.andThen fun log =>
    let kept := select tag log.content
    ⟨[.selected tag kept.length], .ok kept⟩

/-- The lines of a tag in the log at a path of a source. -/
def Source.select (source : Source) (path : Octets) (tag : Tag) : Account (List Line) :=
  Id.run (selectLoaded source path tag)

theorem Source.select_eq (source : Source) (path : Octets) (tag : Tag) :
    source.select path tag = (source path).andThen fun log =>
      ⟨[.selected tag (LogSieve.select tag log.content).length],
        .ok (LogSieve.select tag log.content)⟩ := rfl

/-- The selected lines joined, as a run prints them. -/
def Source.selectJoined (source : Source) (path : Octets) (tag : Tag) : Account Text :=
  (source.select path tag).map Line.join

end LogSieve
