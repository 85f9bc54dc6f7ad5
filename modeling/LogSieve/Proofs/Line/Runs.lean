import LogSieve.Proofs.Line.Append

/-!
# What stands between endings

Endings come in many kinds, and there may be several in a row.  What does not depend on any of that is
what stands between them: the parts of a text without a terminator, each as long as possible, and none
of them empty.

* `runs` — these parts.  The text is taken apart at every single terminator, and the two of a pair have
  nothing between them, so no pair has to be looked for.
* `runs_append_cons` — a text falls apart at each terminator.  All else about runs follows from this.
* `runs_append` — hence it falls apart at every place where no run goes across, and `runs_insert` says
  what a line becomes that is put there.
* `Spaced` — lines kept apart by terminators of any kind and number; `Spaced.runs_glue` says what the runs
  of their text are.
* `filter_split` — the runs of a text are its lines but for the empty ones; `filter_split_eq_filter_runs`
  is what a selection makes of it.
-/

namespace LogSieve

namespace Line

/-- The parts of a text without a terminator, each as long as possible, in order. -/
def runs (text : Text) : List Text :=
  (text.splitOnP isTerminator).filter (· ≠ [])

/-- A text of terminators only.  It may be empty, and it may hold several endings. -/
def IsGap (gap : Text) : Prop :=
  ∀ c ∈ gap, isTerminator c = true

instance (gap : Text) : Decidable (IsGap gap) :=
  List.decidableBAll (fun c => isTerminator c = true) gap

/-- Whether the first character of a text is a terminator. -/
def beginsWithTerminator (text : Text) : Bool :=
  text.head?.any isTerminator

variable {front gap back line : Text} {c : Char}

lemma IsEnding.isGap {ending : Text} (h : IsEnding ending) : IsGap ending := by
  rcases h with ⟨c, hc, rfl⟩ | rfl
  · simpa [IsGap] using hc
  · decide

lemma IsEnding.beginsWithTerminator_append {ending : Text} (h : IsEnding ending) (rest : Text) :
    beginsWithTerminator (ending ++ rest) = true := by
  rcases h with ⟨c, hc, rfl⟩ | rfl
  · exact hc
  · rfl

/-! ## Taking a text apart -/

@[simp] lemma runs_nil : runs [] = [] := by
  simp [runs]

/-- What holds no terminator is one run, or none if there is nothing. -/
lemma runs_of_plain (h : Plain line) : runs line = [line].filter (· ≠ []) := by
  rw [runs, List.splitOnP_eq_singleton h]

theorem runs_append_cons (hc : isTerminator c = true) (front back : Text) :
    runs (front ++ c :: back) = runs front ++ runs back := by
  rw [runs, List.splitOnP_append_cons front back hc, List.filter_append, runs, runs]

lemma runs_cons (hc : isTerminator c = true) (back : Text) : runs (c :: back) = runs back :=
  runs_append_cons hc [] back

lemma runs_gap_append (h : IsGap gap) (back : Text) : runs (gap ++ back) = runs back := by
  induction gap with
  | nil => rfl
  | cons c gap ih =>
      obtain ⟨hc, hgap⟩ := List.forall_mem_cons.1 h
      rw [List.cons_append, runs_cons hc, ih hgap]

/-- **The runs of two texts.**  No run goes across a cut that has a terminator on one of its sides, or
nothing. -/
theorem runs_append (h : (front = [] ∨ endsInTerminator front = true) ∨
    back = [] ∨ beginsWithTerminator back = true) : runs (front ++ back) = runs front ++ runs back := by
  -- The terminator beside the cut is in no run, so it does not matter on which side it is.
  rcases h with (rfl | hfront) | rfl | hback
  · rw [List.nil_append, runs_nil, List.nil_append]
  · obtain ⟨c, hlast, hc⟩ := (Option.any_eq_true _ _).1 hfront
    obtain ⟨front, rfl⟩ := List.getLast?_eq_some_iff.1 hlast
    have hown : runs (front ++ [c]) = runs front := by
      rw [runs_append_cons hc, runs_nil, List.append_nil]
    rw [List.append_assoc, List.singleton_append, runs_append_cons hc, hown]
  · rw [List.append_nil, runs_nil, List.append_nil]
  · obtain ⟨c, hhead, hc⟩ := (Option.any_eq_true _ _).1 hback
    obtain ⟨back, rfl⟩ := List.head?_eq_some_iff.1 hhead
    rw [runs_append_cons hc, runs_cons hc]

/-- **A line put where a line can begin** is one run more.  Its ending may make a pair with what follows,
but it leaves no run changed. -/
theorem runs_insert (hline : Plain line) (hne : line ≠ [])
    (hfront : front = [] ∨ endsInTerminator front = true) {ending : Text} (hending : IsEnding ending)
    (back : Text) : runs (front ++ line ++ ending ++ back) = runs front ++ line :: runs back := by
  have hbehind : beginsWithTerminator (ending ++ back) = true :=
    hending.beginsWithTerminator_append back
  calc runs (front ++ line ++ ending ++ back)
      = runs (front ++ (line ++ (ending ++ back))) := by
        simp only [List.append_assoc]
    _ = runs front ++ (runs line ++ runs (ending ++ back)) := by
        rw [runs_append (Or.inl hfront), runs_append (Or.inr (Or.inr hbehind))]
    _ = runs front ++ line :: runs back := by
        rw [runs_of_plain hline, runs_gap_append hending.isGap,
          List.filter_cons_of_pos (by simpa using hne)]
        rfl

end Line

/-! ## Lines kept apart -/

open Line Piece

/-- Pieces whose lines are kept apart by terminators.  There may be several of them, blank lines as it
were, and nothing need follow the last line. -/
structure Spaced (pieces : List Piece) : Prop where
  plain : ∀ piece ∈ pieces, Plain piece.line
  gap : ∀ piece ∈ pieces, IsGap piece.ending
  between : ∀ piece ∈ pieces.dropLast, piece.ending ≠ []

variable {piece : Piece} {pieces : List Piece}

lemma spaced_nil : Spaced [] :=
  ⟨by simp, by simp, by simp⟩

lemma spaced_cons :
    Spaced (piece :: pieces) ↔ Plain piece.line ∧ IsGap piece.ending ∧
      (pieces = [] ∨ piece.ending ≠ []) ∧ Spaced pieces := by
  by_cases hlast : pieces = []
  · subst hlast
    constructor
    · intro h
      exact ⟨h.plain piece List.mem_cons_self, h.gap piece List.mem_cons_self, Or.inl rfl, spaced_nil⟩
    · rintro ⟨hline, hgap, -, -⟩
      exact ⟨by simpa using hline, by simpa using hgap, by simp⟩
  · have hfront : (piece :: pieces).dropLast = piece :: pieces.dropLast :=
      List.dropLast_cons_of_ne_nil hlast
    constructor
    · rintro ⟨hplain, hgap, hbetween⟩
      rw [hfront] at hbetween
      rw [List.forall_mem_cons] at hplain hgap hbetween
      exact ⟨hplain.1, hgap.1, Or.inr hbetween.1, hplain.2, hgap.2, hbetween.2⟩
    · rintro ⟨hline, hgap, hends, h⟩
      refine ⟨List.forall_mem_cons.2 ⟨hline, h.plain⟩, List.forall_mem_cons.2 ⟨hgap, h.gap⟩, ?_⟩
      rw [hfront]
      exact List.forall_mem_cons.2 ⟨hends.resolve_left hlast, h.between⟩

/-- The runs of the text are the lines, whatever stands between them. -/
theorem Spaced.runs_glue (h : Spaced pieces) :
    runs (glue pieces) = (pieces.map Piece.line).filter (· ≠ []) := by
  induction pieces with
  | nil => exact runs_nil
  | cons piece pieces ih =>
      obtain ⟨hline, hgap, hends, hrest⟩ := spaced_cons.1 h
      have hbehind : piece.ending ++ glue pieces = [] ∨
          beginsWithTerminator (piece.ending ++ glue pieces) = true := by
        cases hending : piece.ending with
        | nil =>
            obtain rfl := hends.resolve_right (not_not_intro hending)
            exact Or.inl rfl
        | cons c gap =>
            rw [hending] at hgap
            exact Or.inr (List.forall_mem_cons.1 hgap).1
      rw [glue_cons, List.append_assoc, runs_append (Or.inr hbehind), runs_gap_append hgap,
        runs_of_plain hline, ih hrest, ← List.filter_append]
      rfl

/-- The lines of a text are kept apart by their endings. -/
lemma IsCut.spaced (h : IsCut pieces) : Spaced pieces := by
  induction pieces with
  | nil => exact spaced_nil
  | cons piece pieces ih =>
      have hline := h.plain piece List.mem_cons_self
      rcases h.endsBefore_or with hending | ⟨rfl, hnone, -⟩
      · exact spaced_cons.2 ⟨hline, hending.1.isGap, Or.inr hending.1.ne_nil, ih h.tail⟩
      · exact spaced_cons.2 ⟨hline, by simp [hnone, IsGap], Or.inl rfl, spaced_nil⟩

namespace Line

/-- **What is not empty among the lines of a text** are its runs. -/
theorem filter_split (text : Text) : (split text).filter (· ≠ []) = runs text := by
  obtain ⟨pieces, rfl, hcut⟩ := IsCut.exists_glue_eq text
  rw [hcut.split_glue, hcut.spaced.runs_glue]

/-- Hence lines and runs are the same to whoever passes over empty lines. -/
theorem filter_split_eq_filter_runs {wanted : Line → Bool} (hempty : wanted [] = false)
    (text : Text) : (split text).filter wanted = (runs text).filter wanted := by
  rw [← filter_split, List.filter_filter]
  refine List.filter_congr fun line _ => ?_
  by_cases hline : line = []
  · rw [hline, hempty, Bool.false_and]
  · rw [decide_eq_true hline, Bool.and_true]

end Line

end LogSieve
