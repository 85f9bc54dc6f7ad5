import LogSieve.Proofs.Selection.Marker
import LogSieve.Proofs.Selection.Search
import Mathlib.Algebra.BigOperators.Group.List.Lemmas
import Mathlib.Algebra.GroupWithZero.Nat

/-!
# Logs of records

A program that writes a log gives each record a line: the marker of its tag, then the message.  The
program may end its lines as it likes, and messages may look like anything, other markers included.
If no tag holds the closing of a marker, nothing is lost by that: the selections of the tags are the
records of the tags.

* `Record`, `Entry` — a record, and a record with what ends its line.
* `IsLog` — entries that make up a log.  `IsLog.isCut` says that they are the lines of their text;
  that a lone CR never meets an LF has to be shown, and comes from the bracket of the next marker.
* `marks_line_iff` — a line belongs to a tag exactly if its record does.
* **`log_falls_apart_by_tags`** — every selection from a log, each record in one of them, and their
  sizes together.
-/

namespace LogSieve

open Line Piece

/-- What a program notes in its log. -/
structure Record where
  tag : Tag
  message : Text
  deriving DecidableEq, Repr

/-- A record in a log, with what ends its line there. -/
structure Entry where
  record : Record
  ending : Text
  deriving DecidableEq, Repr

def Record.line (record : Record) : Line :=
  record.tag.marker ++ record.message

def Entry.piece (entry : Entry) : Piece :=
  ⟨entry.record.line, entry.ending⟩

/-- The text of a log: each record on its line, one after the other. -/
def written (entries : List Entry) : Text :=
  entries.flatMap fun entry => entry.record.line ++ entry.ending

/-- Entries that make up a log. -/
structure IsLog (entries : List Entry) : Prop where
  tag : ∀ entry ∈ entries, entry.record.tag.Delimited
  message : ∀ entry ∈ entries, Plain entry.record.message
  /-- Every line has an ending of its own choice.  Only the last may go without. -/
  ending : ∀ before entry after, entries = before ++ entry :: after →
    IsEnding entry.ending ∨ (after = [] ∧ entry.ending = [])

variable {entries others : List Entry} {entry : Entry} {tag : Tag} {record : Record}

lemma glue_map_piece (entries : List Entry) : glue (entries.map Entry.piece) = written entries := by
  rw [glue, List.flatMap_map]
  rfl

lemma Record.line_ne_nil (record : Record) : record.line ≠ [] := by
  simp [line, Tag.marker]

/-- What follows in a log begins with a bracket. -/
lemma head?_written_ne (entries : List Entry) : (written entries).head? ≠ some '\n' := by
  cases entries with
  | nil => simp [written]
  | cons entry entries => simp [written, Record.line, Tag.marker]

lemma isLog_nil : IsLog [] :=
  ⟨by simp, by simp, by simp⟩

lemma isLog_cons :
    IsLog (entry :: entries) ↔ entry.record.tag.Delimited ∧ Plain entry.record.message ∧
      (IsEnding entry.ending ∨ (entries = [] ∧ entry.ending = [])) ∧ IsLog entries := by
  constructor
  · intro h
    refine ⟨h.tag entry List.mem_cons_self, h.message entry List.mem_cons_self,
      h.ending [] entry entries rfl, ?_⟩
    exact
      { tag := fun e he => h.tag e (List.mem_cons_of_mem _ he)
        message := fun e he => h.message e (List.mem_cons_of_mem _ he)
        ending := fun before e after heq => h.ending (entry :: before) e after (by rw [heq]; rfl) }
  · rintro ⟨htag, hmessage, hending, hrest⟩
    refine ⟨List.forall_mem_cons.2 ⟨htag, hrest.tag⟩,
      List.forall_mem_cons.2 ⟨hmessage, hrest.message⟩, ?_⟩
    rintro (_ | ⟨first, before⟩) e after heq
    · obtain ⟨rfl, rfl⟩ := List.cons.inj heq
      exact hending
    · exact hrest.ending before e after (List.cons.inj heq).2

/-! ## Lines -/

namespace IsLog

lemma plain_line (h : IsLog entries) (hentry : entry ∈ entries) : Plain entry.record.line :=
  plain_marker_append_iff.2 ⟨(h.tag entry hentry).plain, h.message entry hentry⟩

/-- The entries of a log are its lines with their endings. -/
lemma isCut (h : IsLog entries) : IsCut (entries.map Entry.piece) := by
  induction entries with
  | nil => exact IsCut.nil
  | cons entry entries ih =>
      have hline : Plain entry.record.line := h.plain_line List.mem_cons_self
      obtain ⟨-, -, hending | ⟨rfl, hnone⟩, hrest⟩ := isLog_cons.1 h
      · have hbefore : EndsBefore entry.ending (glue (entries.map Entry.piece)) := by
          refine ⟨hending, fun _ => ?_⟩
          rw [glue_map_piece]
          exact head?_written_ne entries
        exact IsCut.cons hline hbefore (ih hrest)
      · have hpiece : entry.piece = ⟨entry.record.line, []⟩ := by rw [Entry.piece, hnone]
        rw [List.map_singleton, hpiece]
        exact IsCut.singleton entry.record.line_ne_nil hline

lemma split_written (h : IsLog entries) :
    split (written entries) = entries.map fun entry => entry.record.line := by
  rw [← glue_map_piece, h.isCut.split_glue, List.map_map]
  rfl

end IsLog

/-! ## Records and their tags -/

lemma marks_line (record : Record) : record.tag.marks record.line = true :=
  Tag.marks_iff.2 ⟨record.message, rfl⟩

/-- The line of a record belongs to the tag of the record, and to no other. -/
theorem marks_line_iff (htag : tag.Delimited) (hrecord : record.tag.Delimited) :
    tag.marks record.line = true ↔ record.tag = tag := by
  constructor
  · intro hmarks
    exact hrecord.eq_of_marks htag (marks_line record) hmarks
  · rintro rfl
    exact marks_line record

/-- A record can be read off its line. -/
lemma eq_of_line_eq {other : Record} (h : record.tag.Delimited) (hother : other.tag.Delimited)
    (hline : record.line = other.line) : record = other := by
  obtain ⟨htag, hmessage⟩ := h.append_inj hother hline
  cases record
  cases other
  exact congrArg₂ Record.mk htag hmessage

namespace IsLog

theorem select_written (h : IsLog entries) (htag : tag.Delimited) :
    select tag (written entries) =
      (entries.filter fun entry => entry.record.tag = tag).map fun entry => entry.record.line := by
  rw [select, h.split_written, List.filter_map]
  congr 1
  refine List.filter_congr fun entry hentry => ?_
  rw [Bool.eq_iff_iff, Function.comp_apply, marks_line_iff htag (h.tag entry hentry),
    decide_eq_true_iff]

lemma line_mem_select_iff (h : IsLog entries) (hentry : entry ∈ entries) (htag : tag.Delimited) :
    entry.record.line ∈ select tag (written entries) ↔ entry.record.tag = tag := by
  rw [mem_select, h.split_written, marks_line_iff htag (h.tag entry hentry)]
  exact and_iff_right (List.mem_map.2 ⟨entry, hentry, rfl⟩)

/-- How many lines of a tag there are is how often the tag occurs. -/
lemma length_select_written (h : IsLog entries) (htag : tag.Delimited) :
    (select tag (written entries)).length =
      (entries.map fun entry => entry.record.tag).count tag := by
  rw [h.select_written htag, List.length_map, ← List.countP_eq_length_filter, List.count,
    List.countP_map]
  refine List.countP_congr fun entry _ => ?_
  simp

/-- The lines of a text and their endings are fixed, and each line is that of one record. -/
theorem eq_of_written_eq (h : IsLog entries) (hothers : IsLog others)
    (heq : written entries = written others) : entries = others := by
  have hpieces : entries.map Entry.piece = others.map Entry.piece := by
    refine h.isCut.eq_of_glue_eq hothers.isCut ?_
    rw [glue_map_piece, glue_map_piece, heq]
  clear heq
  induction entries generalizing others with
  | nil => exact (List.map_eq_nil_iff.1 hpieces.symm).symm
  | cons entry entries ih =>
      cases others with
      | nil => cases hpieces
      | cons other others =>
          obtain ⟨hpiece, hrest⟩ := List.cons.inj hpieces
          obtain ⟨hline, hending⟩ := Piece.mk.inj hpiece
          obtain ⟨htag, -, -, htail⟩ := isLog_cons.1 h
          obtain ⟨htag', -, -, htail'⟩ := isLog_cons.1 hothers
          have hrecord : entry.record = other.record := eq_of_line_eq htag htag' hline
          have hentry : entry = other := by
            cases entry
            cases other
            exact congrArg₂ Entry.mk hrecord hending
          rw [hentry, ih htail htail' hrest]

end IsLog

/-! ## Together -/

/-- **A log falls apart by tags.**  The selection of a tag consists of the lines of the records with
that tag, in order, whatever the messages hold and however the lines end.  Each record is in the
selection of one tag, so the selections of all tags that occur have as many lines as the log has
records.  And the log can be read back: no other entries make up its text. -/
theorem log_falls_apart_by_tags {entries : List Entry} (h : IsLog entries) :
    (∀ tag : Tag, tag.Delimited →
      select tag (written entries) =
        (entries.filter fun entry => entry.record.tag = tag).map fun entry => entry.record.line) ∧
    (∀ entry ∈ entries, ∃! tag : Tag,
      tag.Delimited ∧ entry.record.line ∈ select tag (written entries)) ∧
    ((entries.map fun entry => entry.record.tag).dedup.map fun tag =>
      (select tag (written entries)).length).sum = entries.length ∧
    ∃! log, IsLog log ∧ written log = written entries := by
  refine ⟨fun tag htag => h.select_written htag, fun entry hentry => ?_, ?_, ?_⟩
  · have hown := h.tag entry hentry
    refine ⟨entry.record.tag, ⟨hown, (h.line_mem_select_iff hentry hown).2 rfl⟩, ?_⟩
    rintro tag ⟨htag, hmem⟩
    exact ((h.line_mem_select_iff hentry htag).1 hmem).symm
  · have hcount : ∀ tag ∈ (entries.map fun entry => entry.record.tag).dedup,
        (select tag (written entries)).length =
          (entries.map fun entry => entry.record.tag).count tag := by
      intro tag hmem
      obtain ⟨entry, hentry, rfl⟩ := List.mem_map.1 (List.mem_dedup.1 hmem)
      exact h.length_select_written (h.tag entry hentry)
    rw [List.map_congr_left hcount, List.sum_map_count_dedup_eq_length, List.length_map]
  · exact ⟨entries, ⟨h, rfl⟩, fun others hothers => hothers.1.eq_of_written_eq h hothers.2⟩

/-- A tag that ends in a bracket, one that is empty, a message with the marker of another record, and
four kinds of endings. -/
theorem log_falls_apart_by_tags_brackets :
    let entries : List Entry := [
      ⟨⟨⟨"a]".toList⟩, "[a] x".toList⟩, ['\r']⟩,
      ⟨⟨⟨[]⟩, [']', ' ']⟩, ['\r', '\n']⟩,
      ⟨⟨⟨['a']⟩, []⟩, ['\u2028']⟩,
      ⟨⟨⟨['a']⟩, "] [] ".toList⟩, []⟩]
    IsLog entries ∧ Tag.Delimited ⟨['a']⟩ ∧
      select ⟨['a']⟩ (written entries) = ["[a] ".toList, "[a] ] [] ".toList] ∧
      (∃! tag : Tag, tag.Delimited ∧ "[a]] [a] x".toList ∈ select tag (written entries)) ∧
      ((entries.map fun entry => entry.record.tag).dedup.map fun tag =>
        (select tag (written entries)).length).sum = 4 := by
  intro entries
  have hlog : IsLog entries := by
    refine isLog_cons.2 ⟨⟨by decide, by decide⟩, by decide, Or.inl ?_, ?_⟩
    · exact Or.inl ⟨'\r', by decide, rfl⟩
    refine isLog_cons.2 ⟨⟨by decide, by decide⟩, by decide, Or.inl (Or.inr rfl), ?_⟩
    refine isLog_cons.2 ⟨⟨by decide, by decide⟩, by decide, Or.inl ?_, ?_⟩
    · exact Or.inl ⟨'\u2028', by decide, rfl⟩
    exact isLog_cons.2 ⟨⟨by decide, by decide⟩, by decide, Or.inr ⟨rfl, rfl⟩, isLog_nil⟩
  have htag : Tag.Delimited ⟨['a']⟩ := ⟨by decide, by decide⟩
  obtain ⟨hselect, hrecord, hsum, -⟩ := log_falls_apart_by_tags hlog
  exact ⟨hlog, htag, hselect _ htag, hrecord _ List.mem_cons_self, hsum⟩

end LogSieve
