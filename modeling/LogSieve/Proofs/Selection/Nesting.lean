import LogSieve.Proofs.Selection.Marker
import LogSieve.Selection
import Mathlib.Data.Set.BooleanAlgebra
import Mathlib.Order.CompletePartialOrder

/-!
# Tags that share lines

A tag is put into its marker as it is, so the markers of two tags may begin alike, and one line may bear
both.  The lines of two tags can lie to each other in three ways only.  They are the same lines, the lines
of one are some of those of the other, or there is no line of both: no two tags have some lines in common
and each of them others as well.

* `Tag.marked` — the lines of a tag, whatever follows the marker.
* `Tag.marked_eq_iff`, `Tag.marked_ssubset_iff`, `Tag.disjoint_marked_iff` — which of the three it is can
  be read off the names.
* `select_eq_filter_select` — a tag that extends another selects among what the other selects.
* **`Tag.marked_equal_nested_or_disjoint`** — all of it together.
-/

namespace LogSieve

namespace Tag

variable {a b tag : Tag} {line : Text}

/-- The texts that begin with the marker of a tag. -/
def marked (tag : Tag) : Set Text :=
  {line | tag.marks line = true}

/-- Whether the lines of one of two tags are some of those of the other, but not all of them. -/
def Nested (a b : Tag) : Prop :=
  a.marked ⊂ b.marked ∨ b.marked ⊂ a.marked

lemma mem_marked : line ∈ tag.marked ↔ tag.marker <+: line :=
  List.isPrefixOf_iff_prefix

/-- A marker alone is the shortest line of its tag. -/
lemma marker_mem_marked (tag : Tag) : tag.marker ∈ tag.marked :=
  mem_marked.2 List.prefix_rfl

/-! ## One tag that extends another -/

lemma Extends.exists_marker_eq (h : b.Extends a) :
    ∃ more, more ≠ [] ∧ b.marker = a.marker ++ more := by
  obtain ⟨rest, hname⟩ := h
  refine ⟨rest ++ closing, by simp [closing], ?_⟩
  rw [marker_eq, marker_eq, ← hname]
  simp only [List.cons_append, List.append_assoc]

/-- The longer marker is harder to bear, and the shorter one alone does not bear it. -/
theorem Extends.marked_ssubset (h : b.Extends a) : b.marked ⊂ a.marked := by
  obtain ⟨more, hne, hmarker⟩ := h.exists_marker_eq
  refine Set.ssubset_iff_exists.2 ⟨fun line hline => ?_, a.marker, marker_mem_marked a, fun hown => ?_⟩
  · have hlonger : a.marker <+: b.marker := ⟨more, hmarker.symm⟩
    exact mem_marked.2 (hlonger.trans (mem_marked.1 hline))
  · have hlength := (mem_marked.1 hown).length_le
    rw [hmarker, List.length_append] at hlength
    have hpos : 0 < more.length := List.length_pos_iff.2 hne
    omega

/-! ## What the names say

A marker alone is a line of its tag.  Whether the other tag has that line too decides everything: by
`eq_or_extends_of_marks` there is only one way in which it can.
-/

theorem marked_eq_iff : a.marked = b.marked ↔ a = b := by
  refine ⟨fun h => ?_, fun h => h ▸ rfl⟩
  have hother : a.marker ∈ b.marked := h ▸ marker_mem_marked a
  rcases eq_or_extends_of_marks (marker_mem_marked a) hother with hsame | hextends | hextends
  · exact hsame
  · exact absurd h.symm hextends.marked_ssubset.ne
  · exact absurd h hextends.marked_ssubset.ne

theorem marked_ssubset_iff : b.marked ⊂ a.marked ↔ b.Extends a := by
  refine ⟨fun h => ?_, Extends.marked_ssubset⟩
  have hother : b.marker ∈ a.marked := h.subset (marker_mem_marked b)
  rcases eq_or_extends_of_marks hother (marker_mem_marked b) with rfl | hextends | hextends
  · exact absurd h (ssubset_irrefl _)
  · exact hextends
  · exact absurd h hextends.marked_ssubset.asymm

theorem disjoint_marked_iff :
    Disjoint a.marked b.marked ↔ a ≠ b ∧ ¬ a.Extends b ∧ ¬ b.Extends a := by
  rw [Set.disjoint_left]
  constructor
  · intro h
    refine ⟨?_, fun hextends => ?_, fun hextends => ?_⟩
    · rintro rfl
      exact h (marker_mem_marked a) (marker_mem_marked a)
    · exact h (marker_mem_marked a) (hextends.marked_ssubset.subset (marker_mem_marked a))
    · exact h (hextends.marked_ssubset.subset (marker_mem_marked b)) (marker_mem_marked b)
  · rintro ⟨hne, hab, hba⟩ line ha hb
    rcases eq_or_extends_of_marks ha hb with hsame | hextends | hextends
    · exact hne hsame
    · exact hba hextends
    · exact hab hextends

end Tag

/-! ## Selections -/

/-- What a longer tag selects is selected by the shorter one first. -/
theorem select_eq_filter_select {a b : Tag} (h : b.Extends a) (content : Text) :
    select b content = (select a content).filter b.marks := by
  rw [select, select, List.filter_filter]
  refine List.filter_congr fun line _ => ?_
  rw [Bool.eq_iff_iff, Bool.and_eq_true]
  exact (and_iff_left_of_imp fun hb => h.marked_ssubset.subset hb).symm

namespace Tag

/-- **The lines of two tags are equal, nested or disjoint**, and only one of these.  They are equal if
the tags are; nested if the longer tag begins with the shorter one and the closing of its marker, and
then the longer one has fewer lines; and disjoint otherwise.  So tags in which no marker can close never
share a line, and what a tag selects is among what is selected by one that it extends. -/
theorem marked_equal_nested_or_disjoint (a b : Tag) :
    (a.marked = b.marked ∨ a.Nested b ∨ Disjoint a.marked b.marked) ∧
      ¬ (a.marked = b.marked ∧ a.Nested b) ∧
      ¬ (a.marked = b.marked ∧ Disjoint a.marked b.marked) ∧
      ¬ (a.Nested b ∧ Disjoint a.marked b.marked) ∧
      (a.marked = b.marked ↔ a = b) ∧
      (a.marked ⊂ b.marked ↔ a.Extends b) ∧
      (b.marked ⊂ a.marked ↔ b.Extends a) ∧
      (Disjoint a.marked b.marked ↔ a ≠ b ∧ ¬ a.Extends b ∧ ¬ b.Extends a) ∧
      (¬ closing <:+: a.name → ¬ closing <:+: b.name →
        ∀ line, a.marks line = true → b.marks line = true → a = b) ∧
      (b.Extends a → ∀ content, (select b content).Sublist (select a content)) := by
  have hnested : a.Nested b ↔ a.Extends b ∨ b.Extends a :=
    or_congr marked_ssubset_iff marked_ssubset_iff
  refine ⟨?_, ?_, ?_, ?_, marked_eq_iff, marked_ssubset_iff, marked_ssubset_iff, disjoint_marked_iff,
    fun ha hb line hla hlb => ?_, fun h content => ?_⟩
  · rw [marked_eq_iff, hnested, disjoint_marked_iff]
    tauto
  · rintro ⟨hsame, hless | hless⟩
    · exact hless.ne hsame
    · exact hless.ne hsame.symm
  · rw [marked_eq_iff, disjoint_marked_iff]
    tauto
  · rw [hnested, disjoint_marked_iff]
    tauto
  · rcases eq_or_extends_of_marks hla hlb with hsame | hextends | hextends
    · exact hsame
    · exact absurd hextends.closing_isInfix hb
    · exact absurd hextends.closing_isInfix ha
  · rw [select_eq_filter_select h]
    exact List.filter_sublist

/-- A tag that ends in a bracket and one that extends it, on lines of both, of the shorter alone and of
neither; and the same tag without its bracket, which has no line in common with it. -/
theorem marked_equal_nested_or_disjoint_with_bracket :
    let short : Tag := ⟨"a]".toList⟩
    let long : Tag := ⟨"a]] [b".toList⟩
    let other : Tag := ⟨['a']⟩
    let content := "[a]] 1\r\n[a]] [b] 2\r[a] ] 3".toList
    long.Extends short ∧ (select long content).Sublist (select short content) ∧
      select long content = ["[a]] [b] 2".toList] ∧
      select short content = ["[a]] 1".toList, "[a]] [b] 2".toList] ∧
      (¬ closing <:+: short.name) ∧ (¬ closing <:+: other.name) ∧
      ∀ line, ¬ (short.marks line = true ∧ other.marks line = true) := by
  intro short long other content
  have hextends : long.Extends short := ⟨"[b".toList, by decide⟩
  have hshort : ¬ closing <:+: short.name := by decide
  have hother : ¬ closing <:+: other.name := by decide
  obtain ⟨-, -, -, -, -, -, -, -, -, hselect⟩ := marked_equal_nested_or_disjoint short long
  obtain ⟨-, -, -, -, -, -, -, -, hnone, -⟩ := marked_equal_nested_or_disjoint short other
  refine ⟨hextends, hselect hextends content, by decide, by decide, hshort, hother, ?_⟩
  rintro line ⟨hline, hline'⟩
  exact absurd (hnone hshort hother line hline hline') (by decide)

end Tag

end LogSieve
