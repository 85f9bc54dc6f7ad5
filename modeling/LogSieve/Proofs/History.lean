import LogSieve.History
import Mathlib.Data.List.Basic

/-!
# Histories and parts of them

What a step is answered depends on the state that it finds.  So a step that leaves all states as they
were can be taken out of a history, or put into one, and no other step is answered differently.  Here
this is shown for anything that takes steps, for states that need not be the same but only alike.

* `answers_append`, `getElem?_answers` — the answers to one history after another, and to one step of
  a history.
* `kept` — what is left of a list when each entry comes with a mark that says whether it stays.
* `Blind` — steps whose answers, seen through some view, depend on no more than what like states
  share.  `Blind.answers_kept` is about histories that some idle steps are taken out of.
-/

namespace LogSieve.History

variable {State Step Answer View : Type} {step : State → Step → Answer × State}

/-! ## One history after another -/

lemma after_append (state : State) (steps more : List Step) :
    after step state (steps ++ more) = after step (after step state steps) more :=
  List.foldl_append

lemma after_concat (state : State) (steps : List Step) (s : Step) :
    after step state (steps ++ [s]) = (step (after step state steps) s).2 := by
  rw [after_append]
  rfl

lemma length_answers (state : State) (steps : List Step) :
    (answers step state steps).length = steps.length := by
  induction steps generalizing state with
  | nil => rfl
  | cons s steps ih => exact congrArg (· + 1) (ih (step state s).2)

lemma answers_append (state : State) (steps more : List Step) :
    answers step state (steps ++ more) =
      answers step state steps ++ answers step (after step state steps) more := by
  induction steps generalizing state with
  | nil => rfl
  | cons s steps ih => exact congrArg ((step state s).1 :: ·) (ih (step state s).2)

/-- A step is answered as it is where the steps before it lead. -/
theorem getElem?_answers (state : State) (before : List Step) (s : Step) (rest : List Step) :
    (answers step state (before ++ s :: rest))[before.length]? =
      some (step (after step state before) s).1 := by
  rw [answers_append, List.getElem?_append_right (Nat.le_of_eq (length_answers _ _)), length_answers,
    Nat.sub_self]
  rfl

/-! ## Parts of a history -/

/-- The entries that stay, in their order. -/
def kept {α : Type} (entries : List (α × Bool)) : List α :=
  (entries.filter (·.2)).map (·.1)

@[simp] lemma kept_cons_true {α : Type} (a : α) (entries : List (α × Bool)) :
    kept ((a, true) :: entries) = a :: kept entries := rfl

@[simp] lemma kept_cons_false {α : Type} (a : α) (entries : List (α × Bool)) :
    kept ((a, false) :: entries) = kept entries := rfl

/-- States that are alike stay so and give answers that look the same; and an idle step leads to a
state like the one that it found. -/
structure Blind (step : State → Step → Answer × State) (view : Answer → View)
    (idle : Step → Prop) (alike : State → State → Prop) : Prop where
  answer : ∀ {first second : State}, alike first second → ∀ s,
    view (step first s).1 = view (step second s).1
  next : ∀ {first second : State}, alike first second → ∀ s,
    alike (step first s).2 (step second s).2
  next_idle : ∀ {first second : State}, alike first second → ∀ s, idle s →
    alike (step first s).2 second

/-- **Idle steps are of no consequence.**  Some of them are taken out of a history, wherever they
stand.  The answers to the others are those that they had, as far as they can be seen. -/
theorem Blind.answers_kept {view : Answer → View} {idle : Step → Prop}
    {alike : State → State → Prop} (h : Blind step view idle alike) {first second : State}
    (halike : alike first second) (entries : List (Step × Bool))
    (hidle : ∀ entry ∈ entries, entry.2 = false → idle entry.1) :
    (answers step second (kept entries)).map view =
      kept (((answers step first (entries.map (·.1))).map view).zip (entries.map (·.2))) := by
  induction entries generalizing first second with
  | nil => rfl
  | cons entry entries ih =>
      obtain ⟨s, stays⟩ := entry
      obtain ⟨hs, hentries⟩ := List.forall_mem_cons.1 hidle
      cases stays with
      | true =>
          have hanswer := h.answer halike s
          have hrest := ih (h.next halike s) hentries
          simp only [kept_cons_true, List.map_cons, answers, List.zip_cons_cons, hanswer, hrest]
      | false =>
          have hrest := ih (h.next_idle halike s (hs rfl)) hentries
          simp only [kept_cons_false, List.map_cons, answers, List.zip_cons_cons, hrest]

end LogSieve.History
