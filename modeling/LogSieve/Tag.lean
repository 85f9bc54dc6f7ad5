import LogSieve.Line.Basic

/-!
# Tags and their markers

A record of a log opens with a *marker*: the tag in square brackets, then a space.  The tag stands
in the marker as it is.  Nothing about it is checked and nothing in it is escaped, so a tag may hold
brackets, blanks or nothing, and may then share lines with another tag.

* `Tag.marker` — the text a record of this tag begins with.
* `Tag.marks` — whether a line begins with that text; `Tag.marks_iff` says it as an equation.
-/

namespace LogSieve

/-- The name of a kind of record. -/
structure Tag where
  name : Text
  deriving DecidableEq, Repr

namespace Tag

/-- The tag of function traces, which one of the two tools is fixed to. -/
def ftrace : Tag :=
  ⟨"ftrace".toList⟩

/-- The opening of a record: `[name] `. -/
def marker (tag : Tag) : Text :=
  '[' :: (tag.name ++ "] ".toList)

/-- Whether a line begins with the marker.  Letters are told apart by case, and no blank before the
marker is skipped. -/
def marks (tag : Tag) (line : Line) : Bool :=
  tag.marker.isPrefixOf line

theorem marks_iff {tag : Tag} {line : Line} :
    tag.marks line = true ↔ ∃ message, line = tag.marker ++ message := by
  rw [marks, List.isPrefixOf_iff_prefix]
  exact ⟨fun ⟨message, h⟩ => ⟨message, h.symm⟩, fun ⟨message, h⟩ => ⟨message, h.symm⟩⟩

/-- No marker is empty, so an empty line bears none. -/
@[simp] theorem marks_nil (tag : Tag) : tag.marks [] = false := rfl

end Tag

end LogSieve
