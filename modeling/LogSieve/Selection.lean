import LogSieve.Tag

/-!
# Selecting the lines of a tag

* `select` — the lines of a text that bear a tag's marker, in their order.
* `Stage.run` and `cascade` — selection after selection: each stage works on the joined lines of
  the one before, the way a chain of runs would.
-/

namespace LogSieve

/-- The lines of a text that begin with the marker of a tag, in their order. -/
def select (tag : Tag) (content : Text) : List Line :=
  (Line.split content).filter tag.marks

@[simp] theorem select_nil (tag : Tag) : select tag [] = [] := rfl

theorem mem_select {tag : Tag} {content : Text} {line : Line} :
    line ∈ select tag content ↔ line ∈ Line.split content ∧ tag.marks line = true :=
  List.mem_filter

/-- What one selection of a chain leaves. -/
structure Stage where
  kept : List Line
  deriving DecidableEq, Repr

namespace Stage

/-- The text that the next selection reads. -/
def joined (stage : Stage) : Text :=
  Line.join stage.kept

/-- The number of the line on which that text ends. -/
def nextLine (stage : Stage) : Nat :=
  Line.numberAfter stage.joined

def run (content : Text) (tag : Tag) : Stage :=
  ⟨select tag content⟩

end Stage

/-- The stages of a chain of selections, the first of them reading `content`. -/
def cascade (content : Text) : List Tag → List Stage
  | [] => []
  | tag :: tags =>
    let stage := Stage.run content tag
    stage :: cascade stage.joined tags

end LogSieve
