import LogSieve.Proofs.Line.Cut

/-!
# Texts one after the other

What the lines of `head ++ tail` are, in terms of the two texts.  A head consists of lines that have
ended and of one that may still go on, and only the latter is touched by what follows.

* `Line.ended` and `Line.unended` — the two parts of a head; `ended_append_ending` and
  `unended_append_ending` read them line by line.
* **`split_append`** — the lines of the whole: those that have ended, then the lines of the tail
  with the unended part in front of the first.
* `numberAfter_eq` — the line on which a text continues is the one after those that have ended.

A cut inside a pair CR LF is left out: there the tail begins with a character that belongs to an
ending of the head.
-/

namespace LogSieve

namespace Line

/-! ## What has ended -/

/-- Whether the last character of a text is a terminator. -/
def endsInTerminator (text : Text) : Bool :=
  text.getLast?.any isTerminator

/-- The lines of a text that have an ending. -/
def ended (text : Text) : List Line :=
  if endsInTerminator text then split text else (split text).dropLast

/-- What stands after the last ending of a text: its last line if that has no ending, and nothing if
the text is empty or ends in a terminator. -/
def unended (text : Text) : Line :=
  if endsInTerminator text then [] else (split text).getLast?.getD []

/-- Puts a text in front of the first line. -/
def extendFirstBy (front : Text) : List Line → List Line
  | [] => [front]
  | line :: lines => (front ++ line) :: lines

@[simp] lemma endsInTerminator_nil : endsInTerminator [] = false := rfl

@[simp] lemma ended_nil : ended [] = [] := rfl

@[simp] lemma unended_nil : unended [] = [] := rfl

lemma endsInTerminator_of_plain {text : Text} (h : Plain text) : endsInTerminator text = false := by
  cases hlast : text.getLast? with
  | none => simp [endsInTerminator, hlast]
  | some c => simpa [endsInTerminator, hlast] using h c (List.mem_of_getLast? hlast)

lemma IsEnding.endsInTerminator {ending : Text} (h : IsEnding ending) :
    endsInTerminator ending = true := by
  rcases h with ⟨c, hc, rfl⟩ | rfl
  · simpa [Line.endsInTerminator] using hc
  · decide

/-- How a text ends is decided by its last part, if that is not empty. -/
lemma endsInTerminator_append {front back : Text} (h : back ≠ []) :
    endsInTerminator (front ++ back) = endsInTerminator back := by
  simp [endsInTerminator, List.getLast?_eq_some_getLast h]

lemma endsInTerminator_append_ending {line ending rest : Text} (h : EndsBefore ending rest) :
    endsInTerminator (line ++ ending ++ rest) = (rest.isEmpty || endsInTerminator rest) := by
  cases rest with
  | nil => simpa [endsInTerminator_append h.1.ne_nil] using h.1.endsInTerminator
  | cons c rest => rw [endsInTerminator_append (List.cons_ne_nil c rest)]; simp

lemma ended_of_plain {text : Text} (h : Plain text) : ended text = [] := by
  by_cases hne : text = []
  · subst hne; rfl
  · simp [ended, endsInTerminator_of_plain h, split_of_plain hne h]

lemma unended_of_plain {text : Text} (h : Plain text) : unended text = text := by
  by_cases hne : text = []
  · subst hne; rfl
  · simp [unended, endsInTerminator_of_plain h, split_of_plain hne h]

theorem ended_append_ending {line ending rest : Text} (hline : Plain line)
    (hending : EndsBefore ending rest) : ended (line ++ ending ++ rest) = line :: ended rest := by
  rw [ended, endsInTerminator_append_ending hending, split_append_ending hline hending, ended]
  cases rest with
  | nil => simp
  | cons c rest =>
      have hne : split (c :: rest) ≠ [] := split_ne_nil (List.cons_ne_nil c rest)
      by_cases h : endsInTerminator (c :: rest) = true
      · simp [h]
      · simp [h, List.dropLast_cons_of_ne_nil hne]

theorem unended_append_ending {line ending rest : Text} (hline : Plain line)
    (hending : EndsBefore ending rest) : unended (line ++ ending ++ rest) = unended rest := by
  rw [unended, endsInTerminator_append_ending hending, split_append_ending hline hending, unended]
  cases rest with
  | nil => simp
  | cons c rest =>
      have hne : split (c :: rest) ≠ [] := split_ne_nil (List.cons_ne_nil c rest)
      simp [List.getLast?_cons, List.getLast?_eq_some_getLast hne]

/-! ## The lines of the whole -/

/-- What a head ends with stays complete when the tail follows, unless the two share a pair. -/
lemma EndsBefore.append {ending rest tail : Text} (h : EndsBefore ending rest)
    (hpair : rest = [] → ending = ['\r'] → tail.head? ≠ some '\n') :
    EndsBefore ending (rest ++ tail) := by
  refine ⟨h.1, fun hcr => ?_⟩
  cases rest with
  | nil => exact hpair rfl hcr
  | cons c rest => exact h.2 hcr

lemma split_append_of_plain {front tail : Text} (hfront : Plain front) (htail : tail ≠ []) :
    split (front ++ tail) = extendFirstBy front (split tail) := by
  obtain ⟨line, lines, hlines⟩ := List.exists_cons_of_ne_nil (split_ne_nil htail)
  rw [hlines]
  induction front with
  | nil => exact hlines
  | cons c front ih =>
      obtain ⟨hc, hfront⟩ := plain_cons.1 hfront
      rw [List.cons_append, split_cons, hc, ih hfront]
      rfl

/-- **The lines of two texts.**  The lines that have ended in the head stay as they are, and what
has not ended there goes on in the tail. -/
theorem split_append {head tail : Text} (htail : tail ≠ [])
    (hpair : head.getLast? = some '\r' → tail.head? ≠ some '\n') :
    split (head ++ tail) = ended head ++ extendFirstBy (unended head) (split tail) := by
  induction head using linewise with
  | empty =>
      obtain ⟨line, lines, hlines⟩ := List.exists_cons_of_ne_nil (split_ne_nil htail)
      simp [hlines, extendFirstBy]
  | last line _ hline =>
      rw [ended_of_plain hline, unended_of_plain hline, split_append_of_plain hline htail]
      rfl
  | ended line ending rest hline hending ih =>
      have hending' : EndsBefore ending (rest ++ tail) := by
        refine hending.append fun hrest hcr => hpair ?_
        simp [hrest, hcr]
      have ih' := ih fun hrest => hpair <| by
        rw [List.getLast?_append, hrest]
        rfl
      rw [ended_append_ending hline hending, unended_append_ending hline hending,
        List.append_assoc, split_append_ending hline hending', ih']
      rfl

/-- A text continues on the line after those that have ended. -/
theorem numberAfter_eq (head : Text) : numberAfter head = (ended head).length + 1 := by
  cases hlast : head.getLast? with
  | none =>
      rw [List.getLast?_eq_none_iff.1 hlast]
      rfl
  | some c =>
      have hne : head ≠ [] := by
        rintro rfl
        simp at hlast
      have hlen : 0 < (split head).length := List.length_pos_iff.2 (split_ne_nil hne)
      by_cases hc : isTerminator c = true
      · simp [numberAfter, ended, endsInTerminator, hlast, hc]
      · simp only [numberAfter, ended, endsInTerminator, hlast, Option.any_some, hc,
          List.length_dropLast, if_false, Bool.false_eq_true]
        omega

end Line

end LogSieve
