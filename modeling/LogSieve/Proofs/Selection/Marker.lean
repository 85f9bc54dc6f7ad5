import LogSieve.Tag
import LogSieve.Proofs.Line.Cut
import Mathlib.Data.List.Infix

/-!
# Where a marker ends

A tag stands in its marker unescaped, and the closing of the marker, a bracket and a space, may occur
in the tag as well.  So one line may bear the markers of two tags.  Then the longer tag begins with
the whole rest of the shorter one's marker, and that is the only way.

* `Tag.Extends` — a tag that begins with another one and the closing of its marker.
* `closing_append_cases` — two closings in one text are the same one, or one lies in front of the
  other.  They cannot overlap: a bracket is no space.
* **`Tag.eq_or_extends_of_marks`** — two tags with their markers on one line.
* `Tag.Delimited` — a tag that is told from its message in every line; `Tag.Delimited.eq_of_marks` is
  the reason.
-/

namespace LogSieve

open Line

namespace Tag

/-- What stands in a marker after the tag. -/
def closing : Text :=
  "] ".toList

lemma marker_eq (tag : Tag) : tag.marker = '[' :: (tag.name ++ closing) := rfl

/-- A tag that begins with another one and the closing of its marker. -/
def Extends (long short : Tag) : Prop :=
  short.name ++ closing <+: long.name

/-- A tag that fits into a line and does not hold the closing of a marker. -/
structure Delimited (tag : Tag) : Prop where
  plain : Plain tag.name
  closing : ¬ closing <:+: tag.name

/-! ## Two markers on one line -/

/-- Of two closings in a text, the one after `between` is the first one or lies behind it. -/
lemma closing_append_cases {between first second : Text}
    (h : closing ++ first = between ++ (closing ++ second)) :
    (between = [] ∧ first = second) ∨ closing <+: between := by
  rcases between with _ | ⟨c, _ | ⟨d, between⟩⟩
  · exact Or.inl ⟨rfl, by simpa using h⟩
  · simp [closing] at h
  · obtain ⟨rfl, rfl, -⟩ : ']' = c ∧ ' ' = d ∧ first = between ++ (closing ++ second) := by
      simpa [closing] using h
    exact Or.inr ⟨between, rfl⟩

variable {a b : Tag} {line first second : Text}

/-- The one-sided case: the name of `b` is at least as long as that of `a`. -/
lemma eq_or_extends_of_name_append {more : Text} (hname : b.name = a.name ++ more)
    (h : closing ++ first = more ++ (closing ++ second)) :
    (a = b ∧ first = second) ∨ b.Extends a := by
  rcases closing_append_cases h with ⟨rfl, hsame⟩ | ⟨rest, hrest⟩
  · have hnames : a.name = b.name := by rw [hname, List.append_nil]
    exact Or.inl ⟨congrArg Tag.mk hnames, hsame⟩
  · refine Or.inr ⟨rest, ?_⟩
    rw [hname, ← hrest, List.append_assoc]

/-- Equal lines with a marker at the beginning have equal tags and messages, unless one of the tags
goes on where the marker of the other ends. -/
theorem eq_or_extends_of_append_eq (h : a.marker ++ first = b.marker ++ second) :
    (a = b ∧ first = second) ∨ b.Extends a ∨ a.Extends b := by
  have hnames : a.name ++ (closing ++ first) = b.name ++ (closing ++ second) := by
    simpa [marker_eq] using h
  rcases List.append_eq_append_iff.1 hnames with ⟨more, hname, hrest⟩ | ⟨more, hname, hrest⟩
  · exact (eq_or_extends_of_name_append hname hrest).imp_right Or.inl
  · rcases eq_or_extends_of_name_append hname hrest with ⟨rfl, hsame⟩ | hextends
    · exact Or.inl ⟨rfl, hsame.symm⟩
    · exact Or.inr (Or.inr hextends)

/-- **Two tags on one line** are the same tag, or one of them extends the other. -/
theorem eq_or_extends_of_marks (ha : a.marks line = true) (hb : b.marks line = true) :
    a = b ∨ b.Extends a ∨ a.Extends b := by
  obtain ⟨first, rfl⟩ := marks_iff.1 ha
  obtain ⟨second, hsecond⟩ := marks_iff.1 hb
  exact (eq_or_extends_of_append_eq hsecond).imp_left And.left

/-! ## Delimited tags -/

lemma Extends.closing_isInfix (h : a.Extends b) : closing <:+: a.name :=
  (List.suffix_append b.name closing).isInfix.trans h.isInfix

lemma Delimited.not_extends (h : a.Delimited) : ¬ a.Extends b :=
  fun hextends => h.closing hextends.closing_isInfix

/-- A line shows where a delimited tag ends and its message begins. -/
theorem Delimited.append_inj (ha : a.Delimited) (hb : b.Delimited)
    (h : a.marker ++ first = b.marker ++ second) : a = b ∧ first = second := by
  rcases eq_or_extends_of_append_eq h with hsame | hextends | hextends
  · exact hsame
  · exact absurd hextends hb.not_extends
  · exact absurd hextends ha.not_extends

theorem Delimited.eq_of_marks (ha : a.Delimited) (hb : b.Delimited) (hla : a.marks line = true)
    (hlb : b.marks line = true) : a = b := by
  rcases eq_or_extends_of_marks hla hlb with hsame | hextends | hextends
  · exact hsame
  · exact absurd hextends hb.not_extends
  · exact absurd hextends ha.not_extends

end Tag

end LogSieve
