import LogSieve.Proofs.Line.Append
import Mathlib.Data.List.Basic

/-!
# Lines across a cut

A text may be cut in two anywhere: between lines, inside a line, or between the two characters of a
pair.  The lines of the whole can always be told from the lines of the two parts.

* `SharesPair` — the cut falls inside a pair CR LF, so that the line feed in front of the tail belongs
  to a line of the head.
* `split_append_of_ended`, `split_append_of_sharesPair`, `split_append_of_unended` — the three kinds
  of cuts.
* `numberAfter_append` — the line numbers of the two parts add up; only a shared pair is counted
  twice.  Hence `numberAfter_le_append`: numbers do not go back as a text goes on.
* **`split_and_numberAfter_append`** — all of it together.
-/

namespace LogSieve

namespace Line

/-- Whether a cut between two texts falls inside a pair CR LF. -/
def SharesPair (head tail : Text) : Prop :=
  head.getLast? = some '\r' ∧ tail.head? = some '\n'

instance (head tail : Text) : Decidable (SharesPair head tail) :=
  inferInstanceAs (Decidable (_ ∧ _))

variable {head tail : Text}

/-! ## What is on either side -/

lemma endsInTerminator_of_getLast? {text : Text} (h : text.getLast? = some '\r') :
    endsInTerminator text = true := by
  rw [endsInTerminator, h]
  rfl

lemma extendFirstBy_nil {lines : List Line} (h : lines ≠ []) : extendFirstBy [] lines = lines := by
  cases lines with
  | nil => exact absurd rfl h
  | cons line lines => rfl

lemma length_extendFirstBy {lines : List Line} (h : lines ≠ []) (front : Text) :
    (extendFirstBy front lines).length = lines.length := by
  cases lines with
  | nil => exact absurd rfl h
  | cons line lines => rfl

lemma ended_of_endsInTerminator {text : Text} (h : endsInTerminator text = true) :
    ended text = split text := by
  rw [ended, if_pos h]

/-- All lines have ended but the last, if the text does not end in a terminator. -/
lemma length_ended {text : Text} (h : text ≠ []) :
    (ended text).length + (if endsInTerminator text then 0 else 1) = (split text).length := by
  have hpos : 0 < (split text).length := List.length_pos_iff.2 (split_ne_nil h)
  rw [ended]
  split_ifs
  · rfl
  · rw [List.length_dropLast]
    omega

/-- A line feed is a line of its own, if it ends the line before it is over. -/
lemma split_lineFeed_cons (rest : Text) : split ('\n' :: rest) = [] :: split rest := by
  rw [split_cons, if_pos (by decide), afterEnding, if_neg (by decide)]

/-! ## The three kinds of cuts -/

theorem split_append_of_ended (hended : head = [] ∨ endsInTerminator head = true)
    (hpair : ¬ SharesPair head tail) : split (head ++ tail) = split head ++ split tail := by
  by_cases htail : tail = []
  · simp [htail]
  · have hlines := split_append htail fun hcr hfeed => hpair ⟨hcr, hfeed⟩
    rcases hended with rfl | hends
    · rfl
    · rw [hlines, ended_of_endsInTerminator hends, unended, if_pos hends,
        extendFirstBy_nil (split_ne_nil htail)]

/-- The line feed that completes a pair is lost in the line that the pair ends. -/
theorem split_append_of_sharesPair (hcr : head.getLast? = some '\r') (rest : Text) :
    split (head ++ '\n' :: rest) = split head ++ split rest := by
  induction head using linewise with
  | empty => simp at hcr
  | last line _ hline =>
      have hplain := hline '\r' (List.mem_of_getLast? hcr)
      exact absurd hplain (by decide)
  | ended line ending after hline hending ih =>
      by_cases hafter : after = []
      · subst hafter
        -- the ending of the last line is the CR alone, and gets its LF only now
        have hlast : ending.getLast? = some '\r' := by
          rwa [List.append_nil, List.getLast?_append_of_ne_nil _ hending.1.ne_nil] at hcr
        obtain rfl : ending = ['\r'] := by
          rcases hending.1 with ⟨c, -, rfl⟩ | rfl
          · simpa using hlast
          · simp at hlast
        have hwhole : EndsBefore ['\r', '\n'] rest := ⟨Or.inr rfl, by simp⟩
        have hsplit := split_append_ending hline hwhole
        rw [split_append_ending hline hending]
        simpa using hsplit
      · have hpair : after = [] → ending = ['\r'] → ('\n' :: rest).head? ≠ some '\n' :=
          fun h => absurd h hafter
        have ih' := ih <| by rwa [List.getLast?_append_of_ne_nil _ hafter] at hcr
        rw [List.append_assoc, split_append_ending hline (hending.append hpair), ih',
          split_append_ending hline hending]
        rfl

/-- What has not ended in the head goes on in the first line of the tail. -/
theorem split_append_of_unended (hhead : head ≠ []) (hends : endsInTerminator head = false)
    (htail : tail ≠ []) : ∃ front last first back, split head = front ++ [last] ∧
      split tail = first :: back ∧ split (head ++ tail) = front ++ (last ++ first) :: back := by
  obtain ⟨first, back, hfirst⟩ := List.exists_cons_of_ne_nil (split_ne_nil htail)
  have hne := split_ne_nil hhead
  refine ⟨(split head).dropLast, (split head).getLast hne, first, back,
    (List.dropLast_concat_getLast hne).symm, hfirst, ?_⟩
  have hpair : head.getLast? = some '\r' → tail.head? ≠ some '\n' := by
    intro hcr
    rw [endsInTerminator_of_getLast? hcr] at hends
    cases hends
  rw [split_append htail hpair, hfirst, ended, unended, hends,
    List.getLast?_eq_some_getLast hne]
  rfl

/-! ## Line numbers -/

lemma length_split_append (htail : tail ≠ []) (hpair : ¬ SharesPair head tail) :
    (split (head ++ tail)).length = (ended head).length + (split tail).length := by
  rw [split_append htail fun hcr hfeed => hpair ⟨hcr, hfeed⟩, List.length_append,
    length_extendFirstBy (split_ne_nil htail)]

lemma length_split_append_of_sharesPair (hpair : SharesPair head tail) :
    (split (head ++ tail)).length + 1 = (ended head).length + (split tail).length := by
  obtain ⟨hcr, hfeed⟩ := hpair
  obtain ⟨rest, rfl⟩ := List.head?_eq_some_iff.1 hfeed
  rw [split_append_of_sharesPair hcr, split_lineFeed_cons,
    ended_of_endsInTerminator (endsInTerminator_of_getLast? hcr), List.length_append,
    List.length_cons, Nat.add_assoc]

/-- The first line of the tail has the number of the line on which the head ends, so one line is
counted twice; and a pair that the two share ends a line in each of them. -/
theorem numberAfter_append (head tail : Text) :
    numberAfter (head ++ tail) + (if SharesPair head tail then 2 else 1) =
      numberAfter head + numberAfter tail := by
  simp only [numberAfter_eq]
  by_cases htail : tail = []
  · have hpair : ¬ SharesPair head [] := fun h => by simpa using h.2
    subst htail
    rw [if_neg hpair, List.append_nil, ended_nil, List.length_nil]
  · have hne : head ++ tail ≠ [] := List.append_ne_nil_of_right_ne_nil head htail
    have hwhole := length_ended hne
    have hback := length_ended htail
    rw [endsInTerminator_append htail] at hwhole
    by_cases hpair : SharesPair head tail
    · have hlines := length_split_append_of_sharesPair hpair
      rw [if_pos hpair]
      omega
    · have hlines := length_split_append htail hpair
      rw [if_neg hpair]
      omega

lemma two_le_numberAfter_lineFeed_cons (rest : Text) : 2 ≤ numberAfter ('\n' :: rest) := by
  have hending : EndsBefore ['\n'] rest := ⟨Or.inl ⟨'\n', by decide, rfl⟩, by simp⟩
  have hended : ended ('\n' :: rest) = [] :: ended rest := ended_append_ending plain_nil hending
  rw [numberAfter_eq, hended, List.length_cons]
  omega

/-- More text never takes a line back.  A line feed that completes a pair adds no line to the head, but
it begins one in the tail. -/
theorem numberAfter_le_append (head tail : Text) : numberAfter head ≤ numberAfter (head ++ tail) := by
  have happend := numberAfter_append head tail
  by_cases hpair : SharesPair head tail
  · obtain ⟨rest, rfl⟩ := List.head?_eq_some_iff.1 hpair.2
    have htail := two_le_numberAfter_lineFeed_cons rest
    rw [if_pos hpair] at happend
    omega
  · have htail : 1 ≤ numberAfter tail := by
      rw [numberAfter_eq]
      omega
    rw [if_neg hpair] at happend
    omega

/-! ## Together -/

/-- **Cutting a text into lines goes together with cutting it in two.**  If the head has ended, the
lines of the tail follow its own; a line feed that completes the pair at the end of the head is left
out; and if the head has not ended, its last line and the first one of the tail are one.  The line
numbers of the parts add up in the same way. -/
theorem split_and_numberAfter_append (head tail : Text) :
    (head = [] ∨ endsInTerminator head = true → ¬ SharesPair head tail →
      split (head ++ tail) = split head ++ split tail) ∧
    (∀ rest, head.getLast? = some '\r' → tail = '\n' :: rest →
      split (head ++ tail) = split head ++ split rest) ∧
    (head ≠ [] → endsInTerminator head = false → tail ≠ [] →
      ∃ front last first back, split head = front ++ [last] ∧ split tail = first :: back ∧
        split (head ++ tail) = front ++ (last ++ first) :: back) ∧
    numberAfter (head ++ tail) + (if SharesPair head tail then 2 else 1) =
      numberAfter head + numberAfter tail := by
  refine ⟨split_append_of_ended, fun rest hcr htail => ?_, split_append_of_unended,
    numberAfter_append head tail⟩
  rw [htail]
  exact split_append_of_sharesPair hcr rest

/-- The same text cut after its pair, inside it and inside its first line. -/
theorem split_and_numberAfter_append_around_pair :
    split "ab\r\nc".toList = split "ab\r\n".toList ++ split "c".toList ∧
      split "ab\r\nc".toList = split "ab\r".toList ++ split "c".toList ∧
      (∃ front last first back, split "a".toList = front ++ [last] ∧
        split "b\r\nc".toList = first :: back ∧
        split "ab\r\nc".toList = front ++ (last ++ first) :: back) ∧
      numberAfter "ab\r\nc".toList + 2 = numberAfter "ab\r".toList + numberAfter "\nc".toList := by
  obtain ⟨hafter, -, -, -⟩ := split_and_numberAfter_append "ab\r\n".toList "c".toList
  obtain ⟨-, hinside, -, hnumber⟩ := split_and_numberAfter_append "ab\r".toList "\nc".toList
  obtain ⟨-, -, hbefore, -⟩ := split_and_numberAfter_append "a".toList "b\r\nc".toList
  rw [if_pos (by decide)] at hnumber
  exact ⟨hafter (by decide) (by decide), hinside "c".toList (by decide) (by decide),
    hbefore (by decide) (by decide) (by decide), hnumber⟩

end Line

end LogSieve
