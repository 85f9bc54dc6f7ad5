import LogSieve.Line.Cursor
import LogSieve.Tag

/-!
# A stack of cursors

Several readers can share one text: a cursor is copied, the copy is moved, and dropping it brings
back the place where it was made.  The stack is never empty, because the cursor on top is a field of
its own.

* `CursorStack.Step` and `CursorStack.Answer` — what can be asked of the top cursor, and the shapes
  of what comes back.
* `CursorStack.step` and `CursorStack.run` — one step, and the answers to a list of them.
-/

namespace LogSieve

/-- A cursor and the cursors that it hides. -/
structure CursorStack where
  top : Cursor
  below : List Cursor := []
  deriving DecidableEq, Repr

namespace CursorStack

/-- What can be asked of the cursor on top. -/
inductive Step where
  | next
  /-- Read a line after passing over `n` others. -/
  | nth (n : Nat)
  /-- Count the lines still to come, without moving. -/
  | count
  /-- Look at the last line, without moving. -/
  | last
  /-- Look at all lines still to come, without moving. -/
  | rest
  /-- Read up to `n` lines. -/
  | take (n : Nat)
  /-- Read on to the first line with a tag's marker. -/
  | find (tag : Tag)
  /-- Put a copy of the cursor on top. -/
  | fork
  /-- Take the cursor off, unless it is the only one. -/
  | drop
  deriving DecidableEq, Repr

inductive Answer where
  | line (line : Option Line)
  | lines (lines : List Line)
  | number (n : Nat)
  deriving DecidableEq, Repr

/-- A stack with one cursor, in front of the first line of a text. -/
def ofText (content : Text) : CursorStack :=
  { top := Cursor.ofText content }

/-- The number of cursors. -/
def height (stack : CursorStack) : Nat :=
  stack.below.length + 1

/-- Reads a line with the top cursor, from where `cursor` stands. -/
def readFrom (stack : CursorStack) (cursor : Cursor) : Answer × CursorStack :=
  match cursor.next? with
  | none => (.line none, { stack with top := cursor })
  | some (line, after) => (.line (some line), { stack with top := after })

/-- One step: the answer, and the stack after it. -/
def step (stack : CursorStack) : Step → Answer × CursorStack
  | .next => stack.readFrom stack.top
  | .nth n => stack.readFrom (stack.top.skip n)
  | .count => (.number stack.top.remaining.length, stack)
  | .last => (.line stack.top.remaining.getLast?, stack)
  | .rest => (.lines stack.top.remaining, stack)
  | .take n =>
    let (lines, after) := stack.top.take n
    (.lines lines, { stack with top := after })
  | .find tag =>
    let (line, after) := stack.top.find tag.marks
    (.line line, { stack with top := after })
  | .fork =>
    let copied : CursorStack := { stack with below := stack.top :: stack.below }
    (.number copied.height, copied)
  | .drop =>
    match stack.below with
    | [] => (.number stack.height, stack)
    | top :: below =>
      let shorter : CursorStack := { top, below }
      (.number shorter.height, shorter)

def run (stack : CursorStack) : List Step → List Answer
  | [] => []
  | s :: steps =>
    let (answer, after) := stack.step s
    answer :: after.run steps

end CursorStack

end LogSieve
