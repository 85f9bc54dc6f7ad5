import LogSieve.Proofs.Line.Append
import LogSieve.Selection

/-!
# Joining lines and splitting texts

`Line.join` and `Line.split` are inverse to each other, but not on everything.

* Lines that are joined come back unless one of them holds a terminator or the last is empty: then
  what stood between two lines is taken for the end of one.  `split_join_concat` says what comes
  back in general, and `Readable` is the condition.
* A text that is split comes back with its endings written alike.  `toLineFeeds` writes every ending
  as a line feed; the one at the end of the text, if there is one, is lost.
* **`split_join_and_join_split`** — both, together with the fact that selected lines are readable.
-/

namespace LogSieve

namespace Line

/-! ## From lines to text and back -/

/-- Lines that can be told apart again after they have been joined. -/
structure Readable (lines : List Line) : Prop where
  /-- No line holds a terminator. -/
  plain : ∀ line ∈ lines, Plain line
  /-- There are no lines, or the last is not empty. -/
  last : lines = [] ∨ ∃ last, lines.getLast? = some last ∧ last ≠ []

lemma endsBefore_lineFeed (rest : Text) : EndsBefore ['\n'] rest :=
  ⟨Or.inl ⟨'\n', by decide, rfl⟩, by simp⟩

/-- Closed lines come back as they were, in front of the lines of what follows. -/
theorem split_close_append {lines : List Line} (h : ∀ line ∈ lines, Plain line) (text : Text) :
    split (close lines ++ text) = lines ++ split text := by
  induction lines with
  | nil => rfl
  | cons line lines ih =>
      have hclose : close (line :: lines) ++ text = line ++ ['\n'] ++ (close lines ++ text) := by
        simp [close]
      rw [hclose, split_append_ending (h line List.mem_cons_self) (endsBefore_lineFeed _),
        ih fun l hl => h l (List.mem_cons_of_mem _ hl)]
      rfl

lemma join_concat (lines : List Line) (last : Line) :
    join (lines ++ [last]) = close lines ++ last := by
  induction lines with
  | nil => simp [close]
  | cons first lines ih =>
      obtain ⟨second, others, hothers⟩ : ∃ second others, lines ++ [last] = second :: others :=
        List.exists_cons_of_ne_nil (by simp)
      rw [List.cons_append, hothers, join_cons_cons, ← hothers, ih]
      simp [close]

/-- What comes back of joined lines: all of them but an empty last one. -/
theorem split_join_concat {lines : List Line} {last : Line} (h : ∀ line ∈ lines, Plain line) :
    split (join (lines ++ [last])) = lines ++ split last := by
  rw [join_concat, split_close_append h]

theorem split_join_eq_iff (lines : List Line) : split (join lines) = lines ↔ Readable lines := by
  rcases List.eq_nil_or_concat lines with rfl | ⟨front, last, rfl⟩
  · exact ⟨fun _ => ⟨by simp, Or.inl rfl⟩, fun _ => rfl⟩
  · rw [List.concat_eq_append]
    constructor
    · intro h
      have hplain : ∀ line ∈ front ++ [last], Plain line := fun line hline =>
        plain_of_mem_split (h ▸ hline)
      refine ⟨hplain, Or.inr ⟨last, by simp, ?_⟩⟩
      rintro rfl
      rw [split_join_concat fun line hline => hplain line (List.mem_append_left _ hline)] at h
      simp at h
    · rintro ⟨hplain, hnil | ⟨last', hlast, hne⟩⟩
      · simp at hnil
      · obtain rfl : last = last' := by simpa using hlast
        have hlastPlain : Plain last := hplain last (by simp)
        rw [split_join_concat fun line hline => hplain line (List.mem_append_left _ hline),
          split_of_plain hne hlastPlain]

/-- The lines that a selection keeps are readable: a marker is never empty. -/
theorem readable_select (tag : Tag) (content : Text) : Readable (select tag content) where
  plain line hline := plain_of_mem_split (mem_select.1 hline).1
  last := by
    cases hlast : (select tag content).getLast? with
    | none => exact Or.inl (List.getLast?_eq_none_iff.1 hlast)
    | some line =>
        have hmarks : tag.marks line = true := (mem_select.1 (List.mem_of_getLast? hlast)).2
        refine Or.inr ⟨line, rfl, ?_⟩
        rintro rfl
        simp at hmarks

/-! ## From text to lines and back -/

/-- A text with each ending written as one line feed. -/
def toLineFeeds : Text → Text
  | [] => []
  | '\r' :: '\n' :: rest => '\n' :: toLineFeeds rest
  | c :: rest => (if isTerminator c then '\n' else c) :: toLineFeeds rest

lemma toLineFeeds_cons {c : Char} {rest : Text} (h : c = '\r' → rest.head? ≠ some '\n') :
    toLineFeeds (c :: rest) = (if isTerminator c then '\n' else c) :: toLineFeeds rest := by
  rw [toLineFeeds]
  rintro tail rfl rfl
  exact h rfl rfl

lemma toLineFeeds_plain_append {line : Text} (hline : Plain line) (rest : Text) :
    toLineFeeds (line ++ rest) = line ++ toLineFeeds rest := by
  induction line with
  | nil => rfl
  | cons c line ih =>
      obtain ⟨hc, hline⟩ := plain_cons.1 hline
      have hcr : c ≠ '\r' := by
        rintro rfl
        exact absurd hc (by decide)
      rw [List.cons_append, toLineFeeds_cons fun h => absurd h hcr, hc, ih hline]
      rfl

lemma toLineFeeds_ending_append {ending rest : Text} (h : EndsBefore ending rest) :
    toLineFeeds (ending ++ rest) = '\n' :: toLineFeeds rest := by
  obtain ⟨⟨c, hc, rfl⟩ | rfl, hpair⟩ := h
  · rw [List.singleton_append, toLineFeeds_cons fun hcr => hpair (by rw [hcr]), hc]
    rfl
  · rw [List.cons_append, List.singleton_append, toLineFeeds]

/-- The joined lines of a text are the text with line feeds for endings, short of the line feed at
its end. -/
theorem join_split_append (text : Text) :
    join (split text) ++ (if endsInTerminator text then ['\n'] else []) = toLineFeeds text := by
  induction text using linewise with
  | empty => rfl
  | last line hne hline =>
      have hfeeds := toLineFeeds_plain_append hline []
      rw [List.append_nil] at hfeeds
      simp [split_of_plain hne hline, endsInTerminator_of_plain hline, hfeeds, toLineFeeds]
  | ended line ending rest hline hending ih =>
      rw [split_append_ending hline hending, endsInTerminator_append_ending hending,
        List.append_assoc, toLineFeeds_plain_append hline, toLineFeeds_ending_append hending, ← ih]
      cases hrest : split rest with
      | nil =>
          obtain rfl := (split_eq_nil_iff rest).1 hrest
          simp
      | cons second others =>
          have hne : rest.isEmpty = false := by
            rw [List.isEmpty_eq_false_iff]
            rintro rfl
            simp at hrest
          rw [join_cons_cons, hne, Bool.false_or, List.append_assoc, List.cons_append]

/-! ## Together -/

/-- **Joining and splitting undo each other.**  Lines come back from their joined text exactly when
they are readable, which selected lines always are.  A text comes back from its lines with every
ending written as one line feed, and without the one that it ends in. -/
theorem split_join_and_join_split :
    (∀ lines : List Line, split (join lines) = lines ↔ Readable lines) ∧
    (∀ text : Text,
      join (split text) ++ (if endsInTerminator text then ['\n'] else []) = toLineFeeds text) ∧
    (∀ (tag : Tag) (content : Text), Readable (select tag content)) :=
  ⟨split_join_eq_iff, join_split_append, readable_select⟩

end Line

end LogSieve
