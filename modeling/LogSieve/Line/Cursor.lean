import LogSieve.Line.Basic

/-!
# Walking over the lines of a text

A cursor stands between two lines of a text and holds what it has not read yet, nothing else.
Lines are cut off one at a time, when they are asked for.

* `Cursor.next?` — the next line and the cursor after it.  `Cursor.length_rest_lt_of_next?` says
  that each line uses up some of the text, so every walk ends.
* `Cursor.skip`, `Cursor.take`, `Cursor.find` — walks that move the cursor.
* `Cursor.remaining` — the lines still to come, cut off one after the other.
-/

namespace LogSieve

/-- A place between two lines. -/
structure Cursor where
  /-- The text that has not been read. -/
  rest : Text
  deriving DecidableEq, Repr

namespace Cursor

/-- A cursor in front of the first line. -/
def ofText (content : Text) : Cursor :=
  ⟨content⟩

/-- The text after the ending that it begins with. -/
def dropEnding : Text → Text
  | [] => []
  | c :: rest => Line.afterEnding c rest

/-- The next line and the cursor behind its ending, or `none` at the end of the text. -/
def next? (cursor : Cursor) : Option (Line × Cursor) :=
  if cursor.rest.isEmpty then none
  else
    let inLine := fun c => !Line.isTerminator c
    some (cursor.rest.takeWhile inLine, ⟨dropEnding (cursor.rest.dropWhile inLine)⟩)

theorem length_dropEnding_le (text : Text) : (dropEnding text).length ≤ text.length - 1 := by
  cases text with
  | nil => simp [dropEnding]
  | cons c rest => simpa [dropEnding] using Line.length_afterEnding_le c rest

/-- Reading a line uses up at least one character. -/
theorem length_rest_lt_of_next? {cursor after : Cursor} {line : Line}
    (h : cursor.next? = some (line, after)) : after.rest.length < cursor.rest.length := by
  obtain ⟨rest⟩ := cursor
  cases rest with
  | nil => simp [next?] at h
  | cons c rest =>
    simp only [next?, List.isEmpty_cons, Bool.false_eq_true, if_false, Option.some.injEq,
      Prod.mk.injEq] at h
    obtain ⟨-, rfl⟩ := h
    have hdrop := length_dropEnding_le ((c :: rest).dropWhile fun d => !Line.isTerminator d)
    have hle : ((c :: rest).dropWhile fun d => !Line.isTerminator d).length
        ≤ (c :: rest).length := (List.dropWhile_suffix _).length_le
    simp only [List.length_cons] at hle ⊢
    omega

/-- The cursor after `n` more lines, or at the end of the text if there are fewer. -/
def skip (cursor : Cursor) : Nat → Cursor
  | 0 => cursor
  | n + 1 =>
    match cursor.next? with
    | none => cursor
    | some (_, after) => after.skip n

/-- Up to `n` more lines, and the cursor after them. -/
def take (cursor : Cursor) : Nat → List Line × Cursor
  | 0 => ([], cursor)
  | n + 1 =>
    match cursor.next? with
    | none => ([], cursor)
    | some (line, after) =>
      let (lines, last) := after.take n
      (line :: lines, last)

/-- The next line that is wanted, and the cursor after it.  Without such a line the walk goes to the
end of the text. -/
def find (cursor : Cursor) (wanted : Line → Bool) : Option Line × Cursor :=
  match _h : cursor.next? with
  | none => (none, cursor)
  | some (line, after) => if wanted line then (some line, after) else after.find wanted
termination_by cursor.rest.length
decreasing_by exact length_rest_lt_of_next? _h

/-- The lines still to come. -/
def remaining (cursor : Cursor) : List Line :=
  match _h : cursor.next? with
  | none => []
  | some (line, after) => line :: after.remaining
termination_by cursor.rest.length
decreasing_by exact length_rest_lt_of_next? _h

end Cursor

end LogSieve
