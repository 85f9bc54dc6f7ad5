import LogSieve.Proofs.Line.Joining

/-!
# Selections one after the other

A chain of selections cuts a text, keeps some lines, joins them and cuts again, stage by stage.  The
cutting in between changes nothing: what a stage hands on falls into exactly the lines that it kept.
So a stage keeps the lines of the *first* text that bear the markers of all tags so far.

* `selectAll` — the lines of a text that bear the markers of all tags of a list.
* `selectAll_join_select` — one stage taken off a chain.  It rests on `split_join_select`, the
  invariant of the chain.
* `cascade_eq_map` — the stages of a chain; `getLast?_cascade` reads off the last of them.
* `numberAfter_join` — the line on which joined lines end.
* **`cascade_is_conjunction`** — all of this together: a chain asks for all of its tags, and neither
  their order nor how often they are given matters.
-/

namespace LogSieve

open Line

/-- The lines of a text that bear the markers of all tags, in their order. -/
def selectAll (tags : List Tag) (content : Text) : List Line :=
  (split content).filter fun line => tags.all (·.marks line)

/-! ## One stage -/

/-- What a stage hands on falls into the lines that it kept. -/
lemma split_join_select (tag : Tag) (content : Text) :
    split (join (select tag content)) = select tag content :=
  (split_join_eq_iff _).2 (readable_select tag content)

lemma selectAll_singleton (tag : Tag) (content : Text) :
    selectAll [tag] content = select tag content := by
  simp [selectAll, select]

/-- All tags but the first, asked of what the first stage hands on, are all tags asked of the text
that the first stage reads. -/
lemma selectAll_join_select (tag : Tag) (tags : List Tag) (content : Text) :
    selectAll tags (join (select tag content)) = selectAll (tag :: tags) content := by
  rw [selectAll, split_join_select, select, List.filter_filter, selectAll]
  simp only [List.all_cons, Bool.and_comm]

/-- Which lines bear all markers depends only on which tags there are. -/
lemma selectAll_congr {tags others : List Tag} (h : ∀ tag, tag ∈ others ↔ tag ∈ tags)
    (content : Text) : selectAll others content = selectAll tags content := by
  refine List.filter_congr fun line _ => ?_
  rw [Bool.eq_iff_iff, List.all_eq_true, List.all_eq_true]
  simp only [h]

/-! ## All stages -/

theorem cascade_eq_map (content : Text) (tags : List Tag) :
    cascade content tags =
      (List.range tags.length).map fun k => ⟨selectAll (tags.take (k + 1)) content⟩ := by
  induction tags generalizing content with
  | nil => rfl
  | cons tag tags ih =>
      have hfirst : Stage.run content tag = ⟨selectAll ((tag :: tags).take (0 + 1)) content⟩ := by
        rw [Stage.run, ← selectAll_singleton]
        rfl
      have hrest : cascade (Stage.run content tag).joined tags =
          (List.range tags.length).map fun k =>
            ⟨selectAll ((tag :: tags).take (k + 1 + 1)) content⟩ := by
        rw [ih]
        refine List.map_congr_left fun k _ => ?_
        rw [Stage.joined, Stage.run, selectAll_join_select, List.take_succ_cons]
      rw [List.length_cons, List.range_succ_eq_map, List.map_cons, List.map_map, cascade, hrest,
        hfirst]
      rfl

lemma getLast?_cascade (content : Text) (tags : List Tag) :
    (cascade content tags).getLast? =
      if tags = [] then none else some ⟨selectAll tags content⟩ := by
  rw [cascade_eq_map, List.getLast?_map, List.getLast?_range]
  cases tags with
  | nil => rfl
  | cons tag tags => simp

/-! ## Where the joined lines end -/

lemma readable_of_mem_cascade {content : Text} {tags : List Tag} {stage : Stage}
    (h : stage ∈ cascade content tags) : Readable stage.kept := by
  induction tags generalizing content with
  | nil => simp [cascade] at h
  | cons tag tags ih =>
      rw [cascade, List.mem_cons] at h
      rcases h with rfl | h
      · exact readable_select tag content
      · exact ih h

/-- Joined lines end on the last of them, and on the first line of the text if there are none. -/
theorem Line.numberAfter_join {lines : List Line} (h : Readable lines) :
    numberAfter (join lines) = max 1 lines.length := by
  rcases h.last with rfl | ⟨last, hlast, hne⟩
  · rfl
  · obtain ⟨front, rfl⟩ : ∃ front, lines = front ++ [last] := by
      obtain ⟨front, hfront⟩ := List.getLast?_eq_some_iff.1 hlast
      exact ⟨front, hfront⟩
    have hplain : Plain last := h.plain last (by simp)
    have hends : endsInTerminator (join (front ++ [last])) = false := by
      rw [join_concat, endsInTerminator_append hne]
      exact endsInTerminator_of_plain hplain
    have hended : ended (join (front ++ [last])) = front := by
      rw [ended, hends, (split_join_eq_iff _).2 h]
      simp
    rw [numberAfter_eq, hended]
    simp

/-! ## Together -/

/-- **A chain of selections asks for all of its tags.**  Stage `k` keeps the lines of the text at the
beginning of the chain that bear the markers of the first `k` tags.  Chains with the same tags, in
whatever order and however often, end in the same stage.  The joined lines of every stage end on
the last line that it kept, or on line 1 if it kept none. -/
theorem cascade_is_conjunction (content : Text) (tags : List Tag) :
    cascade content tags =
        (List.range tags.length).map (fun k => ⟨selectAll (tags.take (k + 1)) content⟩) ∧
      (∀ others : List Tag, (∀ tag, tag ∈ others ↔ tag ∈ tags) →
        (cascade content others).getLast? = (cascade content tags).getLast?) ∧
      (∀ stage ∈ cascade content tags, stage.nextLine = max 1 stage.kept.length) := by
  refine ⟨cascade_eq_map content tags, fun others h => ?_, fun stage hstage => ?_⟩
  · have hnil : others = [] ↔ tags = [] := by
      simp only [List.eq_nil_iff_forall_not_mem, h]
    simp only [getLast?_cascade, hnil, selectAll_congr h]
  · exact numberAfter_join (readable_of_mem_cascade hstage)

/-- Two tags of which one contains the marker of the other, in both orders and one of them twice. -/
theorem cascade_is_conjunction_nested_tags :
    let content := "[a] [b] 1\r\n[a] 2\u2028[a] [b] 3\n".toList
    let tags : List Tag := [⟨"a".toList⟩, ⟨"a] [b".toList⟩]
    let others : List Tag := [⟨"a] [b".toList⟩, ⟨"a".toList⟩, ⟨"a] [b".toList⟩]
    let stage : Stage := ⟨["[a] [b] 1".toList, "[a] [b] 3".toList]⟩
    (∀ tag, tag ∈ others ↔ tag ∈ tags) ∧
      (cascade content others).getLast? = (cascade content tags).getLast? ∧
      stage ∈ cascade content tags ∧ stage.nextLine = max 1 stage.kept.length := by
  intro content tags others stage
  have hsame : ∀ tag, tag ∈ others ↔ tag ∈ tags := by
    intro tag
    simp only [others, tags, List.mem_cons, List.not_mem_nil, or_false]
    tauto
  have hstage : stage ∈ cascade content tags := by decide
  obtain ⟨-, hlast, hline⟩ := cascade_is_conjunction content tags
  exact ⟨hsame, hlast others hsame, hstage, hline stage hstage⟩

end LogSieve
