import LogSieve.Proofs.Line.Composition
import Mathlib.Data.List.DropRight

/-!
# The number of the line on which a text goes on

A number that is told to a reader has to be the one that the reader comes to by counting, in the whole
text, which goes on after the place in question.

* `pairCount` — how often CR LF occurs.  `numberAfter_add_pairCount` counts terminators and takes each
  pair for one ending.
* `unended_eq_rtakeWhile` — the line that has not ended, read from the back.
* **`numberAfter_points_at_line`** — the number against the text in front of the place, and against the
  lines of the whole.
-/

namespace LogSieve

namespace Line

/-- The number of pairs CR LF in a text. -/
def pairCount (text : Text) : Nat :=
  (text.zip text.tail).count ('\r', '\n')

lemma pairCount_cons (c : Char) (rest : Text) :
    pairCount (c :: rest) = pairCount rest + (if SharesPair [c] rest then 1 else 0) := by
  cases rest with
  | nil => simp [pairCount, SharesPair]
  | cons d rest =>
      simp only [pairCount, List.tail_cons, List.zip_cons_cons, List.count_cons, SharesPair,
        List.getLast?_singleton, List.head?_cons, Option.some.injEq, beq_iff_eq, Prod.mk.injEq]

lemma numberAfter_singleton (c : Char) :
    numberAfter [c] = if isTerminator c then 2 else 1 := by
  by_cases hc : isTerminator c = true
  · simp [numberAfter, split_cons, hc, afterEnding, dropLineFeed]
  · simp [numberAfter, split_cons, hc, extendFirst]

/-- **Every terminator begins a line**, but the two of a pair begin only one. -/
theorem numberAfter_add_pairCount (head : Text) :
    numberAfter head + pairCount head = head.countP isTerminator + 1 := by
  induction head with
  | nil => rfl
  | cons c rest ih =>
      have happend := numberAfter_append [c] rest
      rw [List.singleton_append, numberAfter_singleton] at happend
      rw [pairCount_cons, List.countP_cons]
      split_ifs at happend ⊢ <;> omega

/-- What stands after a terminator is read from the back without looking at what is in front. -/
lemma rtakeWhile_append_of_endsInTerminator {front : Text} (h : endsInTerminator front = true)
    (rest : Text) : (front ++ rest).rtakeWhile (fun c => !isTerminator c) =
      rest.rtakeWhile fun c => !isTerminator c := by
  induction rest using List.reverseRecOn with
  | nil =>
      rw [List.append_nil, List.rtakeWhile_nil, List.rtakeWhile_eq_nil_iff]
      intro hne
      rw [endsInTerminator, List.getLast?_eq_some_getLast hne, Option.any_some] at h
      simpa using h
  | append_singleton rest c ih =>
      rw [← List.append_assoc, List.rtakeWhile_concat, List.rtakeWhile_concat, ih]

/-- What has not ended is what stands after the last terminator. -/
theorem unended_eq_rtakeWhile (text : Text) :
    unended text = text.rtakeWhile fun c => !isTerminator c := by
  induction text using linewise with
  | empty => rfl
  | last line _ hline =>
      rw [unended_of_plain hline, eq_comm, List.rtakeWhile_eq_self_iff]
      intro c hc
      simp [hline c hc]
  | ended line ending rest hline hending ih =>
      have hends : endsInTerminator (line ++ ending) = true := by
        rw [endsInTerminator_append hending.1.ne_nil]
        exact hending.1.endsInTerminator
      rw [unended_append_ending hline hending, ih, rtakeWhile_append_of_endsInTerminator hends]

/-- **The number leads to the line.**  It is one more than the number of terminators in front, where a
pair counts once.  Whatever text goes on from there, unless the line feed of a pair comes first, the
lines before that number are those that the text in front has ended.  The line of that number exists,
and it is what stood after the last terminator, with the first line of what follows. -/
theorem numberAfter_points_at_line (head : Text) :
    numberAfter head + pairCount head = head.countP isTerminator + 1 ∧
      ∀ tail, tail ≠ [] → ¬ SharesPair head tail →
        1 ≤ numberAfter head ∧
          (split (head ++ tail)).take (numberAfter head - 1) = ended head ∧
          ∃ first, (split tail).head? = some first ∧
            (split (head ++ tail))[numberAfter head - 1]? =
              some ((head.rtakeWhile fun c => !isTerminator c) ++ first) := by
  refine ⟨numberAfter_add_pairCount head, fun tail htail hpair => ?_⟩
  obtain ⟨first, back, hfirst⟩ := List.exists_cons_of_ne_nil (split_ne_nil htail)
  have hnumber : numberAfter head - 1 = (ended head).length := by
    rw [numberAfter_eq, Nat.add_sub_cancel]
  have hwhole : split (head ++ tail) = ended head ++ (unended head ++ first) :: back := by
    rw [split_append htail fun hcr hfeed => hpair ⟨hcr, hfeed⟩, hfirst]
    rfl
  rw [hnumber, hwhole, ← unended_eq_rtakeWhile]
  refine ⟨by rw [numberAfter_eq]; omega, List.take_left, first, by rw [hfirst]; rfl, ?_⟩
  rw [List.getElem?_append_right (Nat.le_refl _), Nat.sub_self, List.getElem?_cons_zero]

/-- After a pair, a lone CR and the beginning of a line. -/
theorem numberAfter_points_at_line_after_endings :
    let head := "a\r\n\rb".toList
    let tail := "c\nd".toList
    tail ≠ [] ∧ ¬ SharesPair head tail ∧ numberAfter head = 3 ∧
      (split (head ++ tail)).take 2 = [['a'], []] ∧ (split (head ++ tail))[2]? = some ['b', 'c'] := by
  intro head tail
  have htail : tail ≠ [] := by decide
  have hpair : ¬ SharesPair head tail := by decide
  obtain ⟨hcount, hlines⟩ := numberAfter_points_at_line head
  obtain ⟨-, hbefore, first, hfirst, hline⟩ := hlines tail htail hpair
  have hnumber : numberAfter head = 3 := by
    have hpairs : pairCount head = 1 := by decide
    have hterminators : head.countP isTerminator = 3 := by decide
    omega
  obtain rfl : ['c'] = first := Option.some.inj hfirst
  rw [hnumber] at hbefore hline
  exact ⟨htail, hpair, hnumber, hbefore, hline⟩

end Line

end LogSieve
