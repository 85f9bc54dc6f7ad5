import LogSieve.CommandLine.Reader
import LogSieve.CommandLine.Wording

/-!
# The standard reader

The reader that the tools run with.  It looks for flags only until it meets `--` or takes its first
left-over value, so that a log file or a tag may look like almost anything.

* `Argument.kind` — what an argument is while flags are looked for.
* `Walk.standard` — the walk.  Values wait to be looked at until the next slot is opened, a flag is met
  or the arguments end; a path must not be empty, and all else must be text.
* `CommandReader.standard` — the reader, with its wording.
-/

namespace LogSieve

/-! ## Single arguments -/

namespace Argument

/-- What an argument is to a reader that still looks for flags. -/
inductive Kind where
  /-- `--`: whatever follows is a value. -/
  | endOfFlags
  | flag (flag : Flag)
  | valuedFlag (flag : Flag) (value : Octets)
  /-- Two hyphens and a name that is no text, so that it is neither a flag nor a value. -/
  | unknown (name : Octets)
  | value
  deriving DecidableEq, Repr

/-- The flag that a letter stands for. -/
def flagOfLetter? (octet : UInt8) : Option Flag :=
  Flag.all.find? fun flag => String.utf8EncodeChar flag.letter == [octet]

/-- The flag in full with something after an equals sign. -/
def valuedFlag? (argument : Octets) : Option (Flag × Octets) :=
  Flag.all.findSome? fun flag =>
    (dropLeading (Text.encode (flag.longForm.toList ++ ['='])) argument).map (flag, ·)

/-- The first of the letters after a hyphen, if each of them stands for a flag. -/
def cluster? (argument : Octets) : Option Flag :=
  (dropLeading [hyphen] argument).bind fun letters => (letters.mapM flagOfLetter?).bind List.head?

/-- The flag that an argument is, in full or by letters. -/
def flag? (argument : Octets) : Option Flag :=
  (Flag.all.find? fun flag => Text.encode flag.longForm.toList == argument).or (cluster? argument)

/-- Two hyphens with what follows them up to an equals sign, if that is no text. -/
def unknown? (argument : Octets) : Option Octets :=
  (dropLeading [hyphen, hyphen] argument).bind fun rest =>
    let name := rest.takeWhile (· ≠ 0x3D)
    if (Utf8.decode? name).isNone then some (hyphen :: hyphen :: name) else none

def kind (argument : Octets) : Kind :=
  if argument.head? ≠ some hyphen then .value
  else if argument = Text.encode "--".toList then .endOfFlags
  else
    match flag? argument, valuedFlag? argument, unknown? argument with
    | some flag, _, _ => .flag flag
    | _, some (flag, value), _ => .valuedFlag flag value
    | _, _, some name => .unknown name
    | none, none, none => .value

end Argument

/-! ## Command lines -/

namespace Walk

/-- What is wrong with the first value that does not fit decides over a value that would open the next
slot and over a flag, but not over arguments that are wrong in themselves. -/
def standard : Walk where
  judge progress argument :=
    if progress.overflowing then .value
    else
      match if progress.literal then .value else Argument.kind argument, progress.misfits with
      | .endOfFlags, _ => .endOfFlags
      | .valuedFlag flag value, _ =>
        .refused (.unexpectedValue flag value progress.vacant.isEmpty)
      | .unknown name, _ => .refused (.unknownArgument name progress.vacant.isEmpty)
      | .flag _, misfit :: _ | .value, misfit :: _ => .refused misfit
      | .flag flag, [] => .refused (.requested flag)
      | .value, [] => .value
  misfit? slot? value :=
    match slot? with
    | some .logFile => if value.isEmpty then some .emptyPath else none
    | _ => if (Utf8.decode? value).isNone then some .notUtf8 else none
  close progress := progress.misfits.head?

end Walk

namespace CommandReader

def standard : CommandReader where
  read := Walk.standard.read
  message tool program refusal := refusal.message tool (tool.calledName program)

end CommandReader

end LogSieve
