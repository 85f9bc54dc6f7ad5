import LogSieve.Line.CursorStack
import LogSieve.Proofs.Line.Cut

/-!
# Cursors as lists of lines

A cursor holds text that it has not read, and cuts a line off it when it is asked for one.  Nobody who
works with cursors can tell: they behave as if each of them held the list of the lines still to come.

* `Cursor.remaining_skip`, `Cursor.take_eq`, `Cursor.find_eq` — the walks of a cursor, as operations
  on that list.
* `LineStack` — a stack of lists of lines, with the steps of a stack of cursors.  `CursorStack.lines`
  reads the one off the other, and `CursorStack.step_lines` says that a step keeps them together.
* `CursorStack.step_cases` — all that a step can do to a stack.  The invariants of a run are proved
  from it: where cursors come to stand, and what happens to those that are covered.
* **`CursorStack.run_eq_run_lines`** — whole runs, with what follows for the cursors that they reach.
-/

namespace LogSieve

/-! ## Walks -/

namespace Cursor

variable {cursor after : Cursor} {line : Line}

lemma remaining_of_next?_eq_none (h : cursor.next? = none) : cursor.remaining = [] := by
  rw [remaining]
  split
  · rfl
  · next heq =>
      rw [h] at heq
      cases heq

lemma remaining_of_next? (h : cursor.next? = some (line, after)) :
    cursor.remaining = line :: after.remaining := by
  rw [remaining]
  split
  · next heq =>
      rw [h] at heq
      cases heq
  · next heq =>
      rw [h] at heq
      cases heq
      rfl

/-- A cursor is exhausted exactly if no lines are to come. -/
lemma next?_eq_none_iff : cursor.next? = none ↔ cursor.remaining = [] := by
  refine ⟨remaining_of_next?_eq_none, fun h => ?_⟩
  cases hnext : cursor.next? with
  | none => rfl
  | some pair =>
      rw [remaining_of_next? hnext] at h
      cases h

theorem remaining_skip (cursor : Cursor) (n : Nat) :
    (cursor.skip n).remaining = cursor.remaining.drop n := by
  induction n generalizing cursor with
  | zero => rfl
  | succ n ih =>
      rw [skip]
      cases hnext : cursor.next? with
      | none => simp [remaining_of_next?_eq_none hnext]
      | some pair => simp [remaining_of_next? hnext, ih]

theorem take_eq (cursor : Cursor) (n : Nat) :
    (cursor.take n).1 = cursor.remaining.take n ∧
      (cursor.take n).2.remaining = cursor.remaining.drop n := by
  induction n generalizing cursor with
  | zero => exact ⟨rfl, rfl⟩
  | succ n ih =>
      rw [take]
      cases hnext : cursor.next? with
      | none => simp [remaining_of_next?_eq_none hnext]
      | some pair =>
          obtain ⟨hlines, hafter⟩ := ih pair.2
          simp [remaining_of_next? hnext, hlines, hafter]

/-- The lines after the first one that is wanted. -/
def linesAfter (wanted : Line → Bool) (lines : List Line) : List Line :=
  (lines.dropWhile fun line => !wanted line).tail

theorem find_eq (cursor : Cursor) (wanted : Line → Bool) :
    (cursor.find wanted).1 = cursor.remaining.find? wanted ∧
      (cursor.find wanted).2.remaining = linesAfter wanted cursor.remaining := by
  induction hn : cursor.rest.length using Nat.strongRecOn generalizing cursor with
  | _ n ih =>
      rw [find]
      split
      · next hnext => simp [remaining_of_next?_eq_none hnext, linesAfter]
      · next line after hnext =>
          rw [remaining_of_next? hnext]
          by_cases hwanted : wanted line = true
          · simp [hwanted, linesAfter]
          · have hlt : after.rest.length < n := hn ▸ length_rest_lt_of_next? hnext
            obtain ⟨hline, hafter⟩ := ih _ hlt after rfl
            rw [Bool.not_eq_true] at hwanted
            simp [hwanted, hline, hafter, linesAfter]

lemma linesAfter_isSuffix (wanted : Line → Bool) (lines : List Line) :
    linesAfter wanted lines <:+ lines :=
  (List.tail_suffix _).trans (List.dropWhile_suffix _)

end Cursor

/-! ## The machine of lists -/

open CursorStack (Step Answer)

/-- A list of lines and the lists that it covers. -/
structure LineStack where
  top : List Line
  below : List (List Line) := []
  deriving DecidableEq, Repr

namespace LineStack

/-- A stack with one list. -/
def ofLines (lines : List Line) : LineStack :=
  { top := lines }

def height (stack : LineStack) : Nat :=
  stack.below.length + 1

/-- One step: lines are taken from the front of the list on top, or looked at there. -/
def step (stack : LineStack) : Step → Answer × LineStack
  | .next => (.line stack.top.head?, { stack with top := stack.top.tail })
  | .nth n => (.line stack.top[n]?, { stack with top := stack.top.drop (n + 1) })
  | .count => (.number stack.top.length, stack)
  | .last => (.line stack.top.getLast?, stack)
  | .rest => (.lines stack.top, stack)
  | .take n => (.lines (stack.top.take n), { stack with top := stack.top.drop n })
  | .find tag =>
    (.line (stack.top.find? tag.marks), { stack with top := Cursor.linesAfter tag.marks stack.top })
  | .fork => (.number (stack.height + 1), { stack with below := stack.top :: stack.below })
  | .drop =>
    match stack.below with
    | [] => (.number stack.height, stack)
    | top :: below => (.number (stack.height - 1), { top, below })

def run (stack : LineStack) : List Step → List Answer
  | [] => []
  | s :: steps =>
    let (answer, after) := stack.step s
    answer :: after.run steps

end LineStack

namespace CursorStack

/-! ## One step -/

/-- The lines still to come for each cursor. -/
def lines (stack : CursorStack) : LineStack :=
  { top := stack.top.remaining, below := stack.below.map Cursor.remaining }

/-- Reading a line with a cursor takes it from the front of the list. -/
lemma readFrom_lines (stack : CursorStack) (cursor : Cursor) :
    (stack.readFrom cursor).1 = .line cursor.remaining.head? ∧
      (stack.readFrom cursor).2.lines = { stack.lines with top := cursor.remaining.tail } := by
  rw [readFrom]
  cases hnext : cursor.next? with
  | none => simp [lines, Cursor.remaining_of_next?_eq_none hnext]
  | some pair => simp [lines, Cursor.remaining_of_next? hnext]

/-- **A step of cursors is a step of lists.**  The answers are the same, and the cursors afterwards
have the lines to come that the lists hold. -/
theorem step_lines (stack : CursorStack) (s : Step) :
    (stack.step s).1 = (stack.lines.step s).1 ∧ (stack.step s).2.lines = (stack.lines.step s).2 := by
  cases s with
  | next => exact readFrom_lines stack stack.top
  | nth n =>
      obtain ⟨hanswer, hlines⟩ := readFrom_lines stack (stack.top.skip n)
      rw [Cursor.remaining_skip] at hanswer hlines
      rw [List.head?_drop] at hanswer
      rw [List.tail_drop] at hlines
      exact ⟨hanswer, hlines⟩
  | count => exact ⟨rfl, rfl⟩
  | last => exact ⟨rfl, rfl⟩
  | rest => exact ⟨rfl, rfl⟩
  | take n =>
      obtain ⟨hlines, hafter⟩ := stack.top.take_eq n
      simp [step, LineStack.step, lines, hlines, hafter]
  | find tag =>
      obtain ⟨hline, hafter⟩ := stack.top.find_eq tag.marks
      simp [step, LineStack.step, lines, hline, hafter]
  | fork => simp [step, LineStack.step, lines, height, LineStack.height]
  | drop =>
      obtain ⟨top, below⟩ := stack
      cases below with
      | nil => exact ⟨rfl, rfl⟩
      | cons next below => simp [step, LineStack.step, lines, height, LineStack.height]

theorem run_lines (stack : CursorStack) (steps : List Step) :
    stack.run steps = stack.lines.run steps := by
  induction steps generalizing stack with
  | nil => rfl
  | cons s steps ih =>
      obtain ⟨hanswer, hlines⟩ := step_lines stack s
      show (stack.step s).1 :: (stack.step s).2.run steps = _
      rw [ih, hanswer, hlines]
      rfl

lemma lines_ofText (content : Text) :
    (ofText content).lines = LineStack.ofLines (Line.split content) := by
  rw [lines, ofText, Cursor.remaining_eq_split]
  rfl

/-! ## Where cursors come to stand -/

/-- The stack after some steps. -/
def after (stack : CursorStack) (steps : List Step) : CursorStack :=
  steps.foldl (fun stack s => (stack.step s).2) stack

/-- All cursors, the one on top first. -/
def cursors (stack : CursorStack) : List Cursor :=
  stack.top :: stack.below

@[simp] lemma after_nil (stack : CursorStack) : stack.after [] = stack := rfl

@[simp] lemma after_cons (stack : CursorStack) (s : Step) (steps : List Step) :
    stack.after (s :: steps) = (stack.step s).2.after steps := rfl

lemma step_fork (top : Cursor) (below : List Cursor) :
    step ⟨top, below⟩ .fork = (.number (below.length + 2), ⟨top, top :: below⟩) := rfl

lemma step_drop_cons (top next : Cursor) (below : List Cursor) :
    step ⟨top, next :: below⟩ .drop = (.number (below.length + 1), ⟨next, below⟩) := rfl

lemma exists_readFrom_eq (cursor : Cursor) :
    ∃ answer moved, moved.remaining <:+ cursor.remaining ∧
      ∀ top below, readFrom ⟨top, below⟩ cursor = (answer, ⟨moved, below⟩) := by
  cases hnext : cursor.next? with
  | none =>
      refine ⟨.line none, cursor, List.suffix_rfl, fun top below => ?_⟩
      rw [readFrom, hnext]
  | some pair =>
      refine ⟨.line (some pair.1), pair.2, ?_, fun top below => ?_⟩
      · rw [Cursor.remaining_of_next? hnext]
        exact List.suffix_cons _ _
      · rw [readFrom, hnext]

/-- **All that a step can do.**  It copies the cursor on top, or takes it off, or moves it on; and
where it moves it, and what it answers then, has nothing to do with the cursors below. -/
theorem step_cases (top : Cursor) (s : Step) :
    s = .fork ∨ s = .drop ∨
      ∃ answer moved, moved.remaining <:+ top.remaining ∧
        ∀ below, step ⟨top, below⟩ s = (answer, ⟨moved, below⟩) := by
  cases s with
  | fork => exact Or.inl rfl
  | drop => exact Or.inr (Or.inl rfl)
  | next =>
      obtain ⟨answer, moved, hmoved, hread⟩ := exists_readFrom_eq top
      exact Or.inr (Or.inr ⟨answer, moved, hmoved, hread top⟩)
  | nth n =>
      obtain ⟨answer, moved, hmoved, hread⟩ := exists_readFrom_eq (top.skip n)
      rw [Cursor.remaining_skip] at hmoved
      exact Or.inr (Or.inr ⟨answer, moved, hmoved.trans (List.drop_suffix _ _), hread top⟩)
  | count =>
      exact Or.inr (Or.inr ⟨.number top.remaining.length, top, List.suffix_rfl, fun _ => rfl⟩)
  | last => exact Or.inr (Or.inr ⟨.line top.remaining.getLast?, top, List.suffix_rfl, fun _ => rfl⟩)
  | rest => exact Or.inr (Or.inr ⟨.lines top.remaining, top, List.suffix_rfl, fun _ => rfl⟩)
  | take n =>
      refine Or.inr (Or.inr ⟨.lines (top.take n).1, (top.take n).2, ?_, fun _ => rfl⟩)
      rw [(top.take_eq n).2]
      exact List.drop_suffix _ _
  | find tag =>
      refine Or.inr (Or.inr ⟨.line (top.find tag.marks).1, (top.find tag.marks).2, ?_, fun _ => rfl⟩)
      rw [(top.find_eq tag.marks).2]
      exact Cursor.linesAfter_isSuffix _ _

/-- No step brings a cursor to lines that no cursor had to come before. -/
lemma isSuffix_of_mem_cursors_step {stack : CursorStack} {s : Step} {lines : List Line}
    (h : ∀ cursor ∈ stack.cursors, cursor.remaining <:+ lines) :
    ∀ cursor ∈ (stack.step s).2.cursors, cursor.remaining <:+ lines := by
  obtain ⟨top, below⟩ := stack
  obtain ⟨htop, hbelow⟩ := List.forall_mem_cons.1 h
  rcases step_cases top s with rfl | rfl | ⟨answer, moved, hmoved, hstep⟩
  · exact List.forall_mem_cons.2 ⟨htop, h⟩
  · cases below with
    | nil => exact h
    | cons next below => exact hbelow
  · rw [hstep]
    exact List.forall_mem_cons.2 ⟨hmoved.trans htop, hbelow⟩

theorem isSuffix_of_mem_cursors_after {stack : CursorStack} {lines : List Line} (steps : List Step)
    (h : ∀ cursor ∈ stack.cursors, cursor.remaining <:+ lines) :
    ∀ cursor ∈ (stack.after steps).cursors, cursor.remaining <:+ lines := by
  induction steps generalizing stack with
  | nil => exact h
  | cons s steps ih => exact ih (isSuffix_of_mem_cursors_step h)

/-! ## What is covered

A run that never takes off the cursor it begins with leaves everything below that cursor alone, and
does not depend on it either.
-/

/-- Steps that never take off the cursor they begin with, when `n` copies lie on it. -/
inductive KeepsBase : Nat → List Step → Prop
  | nil (n : Nat) : KeepsBase n []
  | fork {n : Nat} {steps : List Step} : KeepsBase (n + 1) steps → KeepsBase n (.fork :: steps)
  | drop {n : Nat} {steps : List Step} : KeepsBase n steps → KeepsBase (n + 1) (.drop :: steps)
  | move {n : Nat} {s : Step} {steps : List Step} : s ≠ .fork → s ≠ .drop → KeepsBase n steps →
      KeepsBase n (s :: steps)

/-- A step that neither copies nor takes off moves the cursor on top. -/
lemma exists_moved {s : Step} (hfork : s ≠ .fork) (hdrop : s ≠ .drop) (top : Cursor) :
    ∃ answer moved, moved.remaining <:+ top.remaining ∧
      ∀ below, step ⟨top, below⟩ s = (answer, ⟨moved, below⟩) := by
  rcases step_cases top s with h | h | hmoved
  · exact absurd h hfork
  · exact absurd h hdrop
  · exact hmoved

/-- What is covered is left as it was, and the cursors on it have no lines to come but those that the
first of them had. -/
theorem after_of_keepsBase {n : Nat} {steps : List Step} (h : KeepsBase n steps) :
    ∀ (top : Cursor) (above below : List Cursor) (lines : List Line), above.length = n →
      (∀ cursor ∈ top :: above, cursor.remaining <:+ lines) →
      ∃ top' above', after ⟨top, above ++ below⟩ steps = ⟨top', above' ++ below⟩ ∧
        ∀ cursor ∈ top' :: above', cursor.remaining <:+ lines := by
  induction h with
  | nil n =>
      intro top above below lines _ hlines
      exact ⟨top, above, rfl, hlines⟩
  | fork _ ih =>
      intro top above below lines hlength hlines
      rw [after_cons, step_fork]
      refine ih top (top :: above) below lines (by rw [List.length_cons, hlength]) ?_
      exact List.forall_mem_cons.2 ⟨hlines top List.mem_cons_self, hlines⟩
  | drop _ ih =>
      intro top above below lines hlength hlines
      obtain ⟨next, above, rfl⟩ := List.exists_cons_of_length_eq_add_one hlength
      rw [after_cons, List.cons_append, step_drop_cons]
      exact ih next above below lines (by simpa using hlength) (List.forall_mem_cons.1 hlines).2
  | move hfork hdrop _ ih =>
      intro top above below lines hlength hlines
      obtain ⟨answer, moved, hmoved, hstep⟩ := exists_moved hfork hdrop top
      obtain ⟨htop, habove⟩ := List.forall_mem_cons.1 hlines
      rw [after_cons, hstep]
      exact ih moved above below lines hlength
        (List.forall_mem_cons.2 ⟨hmoved.trans htop, habove⟩)

/-- The answers do not depend on what is covered, only on how much that is. -/
theorem run_of_keepsBase {n : Nat} {steps : List Step} (h : KeepsBase n steps) :
    ∀ (top : Cursor) (above below others : List Cursor), above.length = n →
      others.length = below.length →
      run ⟨top, above ++ others⟩ steps = run ⟨top, above ++ below⟩ steps := by
  induction h with
  | nil n =>
      intro top above below others _ _
      rfl
  | fork _ ih =>
      intro top above below others hlength hothers
      have hrest := ih top (top :: above) below others (by rw [List.length_cons, hlength]) hothers
      simp only [run, step_fork, List.length_append, hothers]
      rw [← List.cons_append, ← List.cons_append, hrest]
  | drop _ ih =>
      intro top above below others hlength hothers
      obtain ⟨next, above, rfl⟩ := List.exists_cons_of_length_eq_add_one hlength
      have hrest := ih next above below others (by simpa using hlength) hothers
      simp only [run, List.cons_append, step_drop_cons, List.length_append, hothers, hrest]
  | move hfork hdrop _ ih =>
      intro top above below others hlength hothers
      obtain ⟨answer, moved, -, hstep⟩ := exists_moved hfork hdrop top
      simp only [run, hstep, ih moved above below others hlength hothers]

/-- A copy leaves its original where it stands. -/
lemma exists_after_fork {more : List Step} (h : KeepsBase 0 more) (stack : CursorStack) :
    ∃ copy above, stack.after (.fork :: more) = ⟨copy, above ++ stack.cursors⟩ := by
  obtain ⟨copy, above, hafter, -⟩ :=
    after_of_keepsBase h stack.top [] stack.cursors stack.top.remaining rfl (by simp)
  exact ⟨copy, above, hafter⟩

/-- A copy reads the same wherever its original stands. -/
lemma run_of_original {more : List Step} (h : KeepsBase 0 more) (stack : CursorStack)
    (original : Cursor) :
    run ⟨stack.top, original :: stack.below⟩ more = run ⟨stack.top, stack.cursors⟩ more :=
  run_of_keepsBase h stack.top [] stack.cursors (original :: stack.below) rfl rfl

/-- A cursor that has come to the end stays there, and so do its copies. -/
lemma next?_after_eq_none {more : List Step} (h : KeepsBase 0 more) {stack : CursorStack}
    (hend : stack.top.next? = none) : (stack.after more).top.next? = none := by
  have hnone : ∀ cursor ∈ [stack.top], cursor.remaining <:+ [] := by
    simp [Cursor.remaining_of_next?_eq_none hend]
  obtain ⟨last, above, hafter, hlines⟩ :=
    after_of_keepsBase h stack.top [] stack.below [] rfl hnone
  have hlast : stack.after more = ⟨last, above ++ stack.below⟩ := hafter
  rw [hlast, Cursor.next?_eq_none_iff]
  exact List.suffix_nil.1 (hlines last List.mem_cons_self)

/-! ## Whole runs -/

/-- **Cursors cannot be told from lists of lines.**  Whatever steps are taken on a cursor in front of
a text, the answers are those of the list of its lines.  Every cursor that is reached has an end of
that list to come.  A copy leaves its original where it stands, whatever happens to the copy, and
reads the same wherever the original stands; and a cursor that has come to the end stays there. -/
theorem run_eq_run_lines (content : Text) (steps : List Step) :
    (ofText content).run steps = (LineStack.ofLines (Line.split content)).run steps ∧
      let stack := (ofText content).after steps
      (∀ cursor ∈ stack.cursors, cursor.remaining <:+ Line.split content) ∧
      ∀ more, KeepsBase 0 more →
        (∃ copy above, stack.after (.fork :: more) = ⟨copy, above ++ stack.cursors⟩) ∧
        (∀ original : Cursor,
          run ⟨stack.top, original :: stack.below⟩ more = run ⟨stack.top, stack.cursors⟩ more) ∧
        (stack.top.next? = none → (stack.after more).top.next? = none) := by
  refine ⟨?_, isSuffix_of_mem_cursors_after steps fun cursor hcursor => ?_, fun more hmore =>
    ⟨exists_after_fork hmore _, run_of_original hmore _, next?_after_eq_none hmore⟩⟩
  · rw [run_lines, lines_ofText]
  · obtain rfl : cursor = Cursor.ofText content := by simpa [cursors, ofText] using hcursor
    have hall : (Cursor.ofText content).remaining = Line.split content :=
      Cursor.remaining_eq_split _
    exact hall ▸ List.suffix_rfl

/-- A copy is read to the end and taken off; then a copy is made of the cursor below it, and of that
copy another one. -/
theorem run_eq_run_lines_two_copies :
    let content := "a\r\nb\n\nc".toList
    let steps : List Step := [.next, .fork, .nth 1, .take 5, .next, .drop, .rest]
    let more : List Step := [.take 5, .fork, .next, .drop, .next]
    (ofText content).run steps =
        [.line (some ['a']), .number 2, .line (some []), .lines [['c']], .line none, .number 1,
          .lines [['b'], [], ['c']]] ∧
      KeepsBase 0 more ∧
      (∃ copy above, ((ofText content).after steps).after (.fork :: more) =
        ⟨copy, above ++ ((ofText content).after steps).cursors⟩) ∧
      ((ofText content).after [.take 9]).top.next? = none ∧
      (((ofText content).after [.take 9]).after more).top.next? = none := by
  intro content steps more
  have hmore : KeepsBase 0 more :=
    .move (by decide) (by decide) (.fork (.move (by decide) (by decide) (.drop
      (.move (by decide) (by decide) (.nil 0)))))
  obtain ⟨hrun, -, hcopies⟩ := run_eq_run_lines content steps
  obtain ⟨-, -, hends⟩ := run_eq_run_lines content [.take 9]
  have hend : ((ofText content).after [.take 9]).top.next? = none := by decide
  exact ⟨hrun.trans (by decide), hmore, (hcopies more hmore).1, hend,
    (hends more hmore).2.2 hend⟩

end CursorStack

end LogSieve
