import LogSieve.Proofs.Selection.Search

/-!
# Records put into a log

Nothing about a tag is checked, so a tag may hold a terminator.  Its marker then is cut in two wherever it
stands: such a tag has no record in any log, not even in one that holds the marker as a text.  There is no
other reason for that.  The record of any other tag may be put into a log wherever a line can begin, and it
is selected there, with everything around it as before.

* `plain_name_of_mem_select` — what is selected shows that the tag fits into a line.
* `select_insert` — a record in its place between the records before it and those after it.
* **`select_nothing_iff_and_insert`** — the tags that select nothing, and what the others do.
-/

namespace LogSieve

open Line

variable {tag : Tag} {message before ending content : Text} {line : Line}

/-- A line that bears a marker holds all of it. -/
lemma plain_name_of_mem_select (h : line ∈ select tag content) : Plain tag.name := by
  obtain ⟨hline, hmarks⟩ := mem_select.1 h
  obtain ⟨message, rfl⟩ := Tag.marks_iff.1 hmarks
  exact (plain_marker_append_iff.1 (plain_of_mem_split hline)).1

/-- **A record is put where a line can begin**, and it is selected between what is selected before it and
what is selected after it. -/
theorem select_insert (hname : Plain tag.name) (hmessage : Plain message)
    (hbefore : before = [] ∨ endsInTerminator before = true) (hending : IsEnding ending)
    (after : Text) : select tag (before ++ (tag.marker ++ message) ++ ending ++ after) =
      select tag before ++ (tag.marker ++ message) :: select tag after := by
  have hline : Plain (tag.marker ++ message) := plain_marker_append_iff.2 ⟨hname, hmessage⟩
  have hne : tag.marker ++ message ≠ [] := by simp [Tag.marker]
  have hmarks : tag.marks (tag.marker ++ message) = true := Tag.marks_iff.2 ⟨message, rfl⟩
  rw [select_eq_filter_runs, runs_insert hline hne hbefore hending, List.filter_append,
    List.filter_cons_of_pos hmarks, ← select_eq_filter_runs, ← select_eq_filter_runs]

/-- **The tags that select nothing are those with a terminator.**  No log has a line of such a tag.  For
every other tag, a record that is put into a log at the beginning of a line, with an ending of any kind,
is one line more in the selection, in its place, and no other line is touched. -/
theorem select_nothing_iff_and_insert (tag : Tag) :
    ((∀ content, select tag content = []) ↔ ∃ c ∈ tag.name, isTerminator c = true) ∧
      (Plain tag.name → ∀ message before ending after : Text, Plain message →
        (before = [] ∨ endsInTerminator before = true) → IsEnding ending →
          select tag (before ++ (tag.marker ++ message) ++ ending ++ after) =
            select tag before ++ (tag.marker ++ message) :: select tag after) := by
  have hplain : (∃ c ∈ tag.name, isTerminator c = true) ↔ ¬ Plain tag.name := by
    simp [Plain]
  refine ⟨?_, fun hname message before ending after hmessage hbefore hending =>
    select_insert hname hmessage hbefore hending after⟩
  rw [hplain]
  constructor
  · intro hnone hname
    -- a log of one record without a message
    have hown := select_insert hname plain_nil (Or.inl rfl) (Or.inr rfl) []
    rw [hnone] at hown
    cases hown
  · intro hname content
    rw [List.eq_nil_iff_forall_not_mem]
    intro line hline
    exact hname (plain_name_of_mem_select hline)

/-- A line separator in a tag, and a record put between the carriage return of one line ending and the
line feed that becomes part of its own. -/
theorem select_nothing_iff_and_insert_before_line_feed :
    let broken : Tag := ⟨['a', '\u2028']⟩
    let tag : Tag := ⟨['a']⟩
    let before := "[a] 0\r".toList
    let after := "\n[a] 2".toList
    (∃ c ∈ broken.name, isTerminator c = true) ∧ select broken "[a\u2028] 1".toList = [] ∧
      Plain tag.name ∧ Plain ['1'] ∧ endsInTerminator before = true ∧ IsEnding ['\r'] ∧
      select tag (before ++ (tag.marker ++ ['1']) ++ ['\r'] ++ after) =
        select tag before ++ (tag.marker ++ ['1']) :: select tag after := by
  intro broken tag before after
  have hbroken : ∃ c ∈ broken.name, isTerminator c = true := ⟨'\u2028', by decide, by decide⟩
  have hname : Plain tag.name := by decide
  have hmessage : Plain ['1'] := by decide
  have hbefore : endsInTerminator before = true := by decide
  have hending : IsEnding ['\r'] := Or.inl ⟨'\r', by decide, rfl⟩
  obtain ⟨hnothing, -⟩ := select_nothing_iff_and_insert broken
  obtain ⟨-, hinsert⟩ := select_nothing_iff_and_insert tag
  exact ⟨hbroken, hnothing.2 hbroken _, hname, hmessage, hbefore, hending,
    hinsert hname ['1'] before ['\r'] after hmessage (Or.inr hbefore) hending⟩

end LogSieve
