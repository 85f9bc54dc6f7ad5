import LogSieve.Proofs.Line.Runs
import LogSieve.Selection

/-!
# Endings do not matter to a selection

A line that bears a marker is not empty.  So a selection does not see blank lines, and it does not see
of what kind endings are, although both change the lines of a text and their numbers: a terminator more
may open a blank line, and it may as well join the one beside it to a pair.

* `select_eq_filter_runs` — a selection in terms of runs, with no lines in it; hence
  `select_cons_of_isTerminator`, which takes a terminator off the front.
* **`select_depends_on_runs`** — texts with the same runs have the same selection; in particular texts
  that differ only in what stands between their lines.
* **`select_append_and_flatten`** — the selections of two parts of a log are those of the whole, if the
  cut has a terminator beside it; and so for any number of parts that have ended.
-/

namespace LogSieve

open Line Piece

/-- The lines that a selection keeps are among the runs. -/
theorem select_eq_filter_runs (tag : Tag) (content : Text) :
    select tag content = (runs content).filter tag.marks :=
  filter_split_eq_filter_runs (Tag.marks_nil tag) content

/-- **A terminator in front changes nothing.**  At most it adds an empty line or takes one away, when
it joins with a line feed to a pair. -/
theorem select_cons_of_isTerminator (tag : Tag) {c : Char} (hc : isTerminator c = true)
    (rest : Text) : select tag (c :: rest) = select tag rest := by
  rw [select_eq_filter_runs, select_eq_filter_runs, runs_cons hc]

/-! ## One text in place of another -/

/-- **A selection depends on the runs of a text alone.**  It consists of the runs that bear the marker,
so texts with the same runs have the same selection.  Such are all texts with the same lines, blank
ones left out, whatever terminators keep them apart and whatever stands before the first and after the
last. -/
theorem select_depends_on_runs (tag : Tag) :
    (∀ content : Text, select tag content = (runs content).filter tag.marks) ∧
      (∀ first second : Text, runs first = runs second → select tag first = select tag second) ∧
      ∀ pieces others : List Piece, Spaced pieces → Spaced others →
        (pieces.map Piece.line).filter (· ≠ []) = (others.map Piece.line).filter (· ≠ []) →
          select tag (glue pieces) = select tag (glue others) := by
  have hruns : ∀ first second : Text, runs first = runs second →
      select tag first = select tag second := by
    intro first second h
    rw [select_eq_filter_runs, select_eq_filter_runs, h]
  refine ⟨select_eq_filter_runs tag, hruns, fun pieces others hpieces hothers hlines => ?_⟩
  refine hruns _ _ ?_
  rw [hpieces.runs_glue, hothers.runs_glue, hlines]

/-- A line feed that becomes a carriage return makes a pair and takes a blank line away; and a log whose
endings are all written anew, with blank lines at both ends. -/
theorem select_depends_on_runs_across_pair :
    let first := "[a] 1\n\n-\n[a] 2".toList
    let second := "[a] 1\r\n-\n[a] 2".toList
    let pieces : List Piece :=
      [⟨"[a] 1".toList, ['\n', '\n']⟩, ⟨['-'], ['\n']⟩, ⟨"[a] 2".toList, []⟩]
    let others : List Piece := [⟨[], ['\r', '\n']⟩, ⟨"[a] 1".toList, ['\r']⟩,
      ⟨['-'], ['\u2028', '\r']⟩, ⟨"[a] 2".toList, ['\x0b', '\n', '\r']⟩]
    runs first = runs second ∧ split first ≠ split second ∧
      numberAfter first ≠ numberAfter second ∧ select ⟨['a']⟩ first = select ⟨['a']⟩ second ∧
      Spaced pieces ∧ Spaced others ∧
      (pieces.map Piece.line).filter (· ≠ []) = (others.map Piece.line).filter (· ≠ []) ∧
      select ⟨['a']⟩ (glue pieces) = select ⟨['a']⟩ (glue others) := by
  intro first second pieces others
  obtain ⟨-, hruns, hspaced⟩ := select_depends_on_runs ⟨['a']⟩
  have hsame : runs first = runs second := by decide
  have hpieces : Spaced pieces := ⟨by decide, by decide, by decide⟩
  have hothers : Spaced others := ⟨by decide, by decide, by decide⟩
  have hlines : (pieces.map Piece.line).filter (· ≠ []) =
      (others.map Piece.line).filter (· ≠ []) := by decide
  exact ⟨hsame, by decide, by decide, hruns first second hsame, hpieces, hothers, hlines,
    hspaced pieces others hpieces hothers hlines⟩

/-! ## Parts of a log -/

/-- **The selections of parts are the selection of the whole.**  A log may be cut in two wherever there
is a terminator beside the cut, between the two characters of a pair too; and it may be put together of
any number of parts that are empty or have ended. -/
theorem select_append_and_flatten (tag : Tag) :
    (∀ front back : Text,
      (front = [] ∨ endsInTerminator front = true) ∨ (back = [] ∨ beginsWithTerminator back = true) →
        select tag (front ++ back) = select tag front ++ select tag back) ∧
      ∀ parts : List Text, (∀ part ∈ parts, part = [] ∨ endsInTerminator part = true) →
        select tag parts.flatten = (parts.map (select tag)).flatten := by
  have hcut : ∀ front back : Text,
      (front = [] ∨ endsInTerminator front = true) ∨ (back = [] ∨ beginsWithTerminator back = true) →
        select tag (front ++ back) = select tag front ++ select tag back := by
    intro front back h
    simp only [select_eq_filter_runs, runs_append h, List.filter_append]
  refine ⟨hcut, fun parts hparts => ?_⟩
  induction parts with
  | nil => rfl
  | cons part parts ih =>
      obtain ⟨hpart, hrest⟩ := List.forall_mem_cons.1 hparts
      rw [List.flatten_cons, hcut part _ (Or.inl hpart), ih hrest, List.map_cons, List.flatten_cons]

/-- A cut inside a pair, a cut in front of a line feed, and three parts of a log. -/
theorem select_append_and_flatten_inside_pair :
    let parts := ["[a] 1\r".toList, [], "\n[a] 2\n".toList, "\n-\u2028".toList]
    endsInTerminator "[a] 1\r".toList = true ∧
      select ⟨['a']⟩ "[a] 1\r\n[a] 2".toList =
        select ⟨['a']⟩ "[a] 1\r".toList ++ select ⟨['a']⟩ "\n[a] 2".toList ∧
      beginsWithTerminator "\n[a] 2".toList = true ∧
      select ⟨['a']⟩ "[a] 1\n[a] 2".toList =
        select ⟨['a']⟩ "[a] 1".toList ++ select ⟨['a']⟩ "\n[a] 2".toList ∧
      (∀ part ∈ parts, part = [] ∨ endsInTerminator part = true) ∧
      select ⟨['a']⟩ parts.flatten = (parts.map (select ⟨['a']⟩)).flatten := by
  intro parts
  obtain ⟨hcut, hflatten⟩ := select_append_and_flatten ⟨['a']⟩
  have hfront : endsInTerminator "[a] 1\r".toList = true := by decide
  have hback : beginsWithTerminator "\n[a] 2".toList = true := by decide
  have hparts : ∀ part ∈ parts, part = [] ∨ endsInTerminator part = true := by decide
  exact ⟨hfront, hcut "[a] 1\r".toList "\n[a] 2".toList (Or.inl (Or.inr hfront)), hback,
    hcut "[a] 1".toList "\n[a] 2".toList (Or.inr (Or.inr hback)), hparts, hflatten parts hparts⟩

end LogSieve
