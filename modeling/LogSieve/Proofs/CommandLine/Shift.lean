import LogSieve.CommandLine.Standard
import LogSieve.Proofs.Utf8.Segments

/-!
# One slot more in front

A tool with one slot more in front of its others asks its reader for more.  If the first argument is a
value and fits that slot, the reader has then come as far as it is in the beginning without the slot,
so that everything after it happens as if slot and value were not there: the same arguments are
values, and the same refusal comes at the same argument.

* `Walk.read_cons` — the reading of slots after one that has its value.
* `CommandReader.Follows.parse_chosenTag_cons` — hence the tool with a chosen tag reads a tag and a
  command line as the tool with the fixed tag reads the command line alone.
* `ReadAlike`, `CommandReader.Follows.readAlike` — with the fixed tag for the tag, both come to the same
  refusal, each to its own usage line, or both to the same request.
* `CommandReader.standard_follows` — the standard reader keeps what is relied upon here.
-/

namespace LogSieve

/-! ## A slot that has its value -/

namespace Walk

variable {walk : Walk} {slot : Slot} {slots : List Slot} {value : Octets}

/-- With a value that fits, a walk is where it would begin without the slot. -/
lemma take_of_fits (hfits : walk.misfit? (some slot) value = none) :
    walk.take { vacant := slot :: slots } value = { vacant := slots } := by
  simp [take, hfits]

lemma read_cons (hjudge : walk.judge { vacant := slot :: slots } value = .value)
    (hfits : walk.misfit? (some slot) value = none) (rest : List Octets) :
    walk.read (slot :: slots) (value :: rest) =
      (walk.read slots rest).map (Arguments.put (some slot) value) := by
  rw [read, readFrom, hjudge]
  simp only [take_of_fits hfits, List.head?_cons]
  rfl

end Walk

/-! ## The two tools -/

namespace Arguments

/-- What the tool with the fixed tag and the tool with a chosen tag make of two command lines is
alike: it is the same refusal, or the same log file and the same left-over values.  In the latter
case, either each answers with its own usage line, or they come to the same request. -/
inductive ReadAlike : Except Refusal Arguments → Except Refusal Arguments → Prop
  | refused (refusal : Refusal) : ReadAlike (.error refusal) (.error refusal)
  | incomplete {fixed chosen : Arguments} :
      fixed.logFile = chosen.logFile → fixed.surplus = chosen.surplus →
      request .fixedTag fixed = .error (.usage Tool.fixedTag.usageLine.toList) →
      request .chosenTag chosen = .error (.usage Tool.chosenTag.usageLine.toList) →
      ReadAlike (.ok fixed) (.ok chosen)
  | complete {fixed chosen : Arguments} (asked : Request) :
      fixed.logFile = chosen.logFile → fixed.surplus = chosen.surplus →
      request .fixedTag fixed = .ok asked → request .chosenTag chosen = .ok asked →
      ReadAlike (.ok fixed) (.ok chosen)

/-- Whatever stands in the slots of the one tool, the other comes to the same with the fixed tag in
front. -/
lemma readAlike_put_ftrace (answer : Except Refusal Arguments) :
    ReadAlike answer (answer.map (put (some .traceType) (Text.encode Tag.ftrace.name))) := by
  cases answer with
  | error refusal => exact .refused refusal
  | ok parsed =>
      rcases parsed with ⟨traceType, _ | path, surplus⟩
      · exact .incomplete rfl rfl rfl rfl
      · exact .complete ⟨Tag.ftrace, path⟩ rfl rfl rfl rfl

end Arguments

namespace CommandReader

variable {reader : CommandReader} {walk : Walk}

lemma Follows.parse_chosenTag_cons (h : reader.Follows walk) {name : Text}
    (hplain : (Text.encode name).head? ≠ some Argument.hyphen) (arguments : List Octets) :
    reader.parse .chosenTag (Text.encode name :: arguments) =
      (reader.parse .fixedTag arguments).map
        (Arguments.put (some .traceType) (Text.encode name)) := by
  have hjudge : walk.judge { vacant := [.traceType, .logFile] } (Text.encode name) = .value :=
    h.value_of_plain _ _ rfl hplain
  rw [parse, parse, h.read_eq, h.read_eq]
  exact Walk.read_cons hjudge (h.misfit?_text name) arguments

lemma Follows.readAlike (h : reader.Follows walk) (arguments : List Octets) :
    Arguments.ReadAlike (reader.parse .fixedTag arguments)
      (reader.parse .chosenTag (Text.encode Tag.ftrace.name :: arguments)) := by
  have hplain : (Text.encode Tag.ftrace.name).head? ≠ some Argument.hyphen := by decide
  rw [h.parse_chosenTag_cons hplain]
  exact Arguments.readAlike_put_ftrace _

/-! ## The standard reader -/

theorem standard_follows : standard.Follows Walk.standard where
  read_eq _ _ := rfl
  value_of_plain progress argument hfits hplain := by
    have hkind : Argument.kind argument = .value := if_pos hplain
    simp only [Walk.standard, hkind, hfits, ite_self]
  misfit?_text text := by
    simp [Walk.standard, Utf8.decode?_eq_some_iff.2 (rfl : Text.encode text = Text.encode text)]

end CommandReader

end LogSieve
