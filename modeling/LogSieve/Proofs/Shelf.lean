import LogSieve.Path
import LogSieve.Proofs.History
import LogSieve.Shelf
import Mathlib.Data.List.Induction

/-!
# Histories of a shelf

Whoever selects from a shelf need not know what has happened to it.  The log that is selected from is
the one that was put there last, other paths do not matter, and neither do other selections, which
only leave behind that their paths were asked for.  Which paths are the same is for the key to say,
and nothing here depends on what it says.

* `get?_step`, `loads_step` — all that a step does to a shelf: what lies at a path, and what was asked
  for.  `get?_after` and `loads_after` are the same for a whole history.
* `latest` — what the latest change for a path has left there, read off a history alone.
* `blind_step` — no step can tell shelves apart that hold the same.
* **`run_select_eq_latest`** — the answer to any selection of any history, and what becomes of the
  answers when selections are taken out.
-/

namespace LogSieve.Shelf

variable {Key : Type} [DecidableEq Key] (key : Octets → Key)

/-! ## Steps -/

/-- What a step leaves under the key of the path that it changes. -/
def Step.change? : Step → Option (Key × Option ShelfEntry)
  | .put path entry => some (key path, some entry)
  | .remove path => some (key path, none)
  | .select .. => none

/-- The path that a step asks for, as it was given. -/
def Step.asked? : Step → Option Octets
  | .select path _ => some path
  | _ => none

lemma getD_lookup_singleton {Value : Type} (place wanted : Key)
    (value other : Value) :
    ([(place, value)].lookup wanted).getD other = if wanted = place then value else other := by
  by_cases h : wanted = place
  · simp [h]
  · have hne : (wanted == place) = false := by simpa using h
    simp [List.lookup_cons, h, hne]

lemma get?_step (shelf : Shelf Key) (s : Step) (path : Octets) :
    (shelf.step key s).2.get? key path =
      ((s.change? key).toList.lookup (key path)).getD (shelf.get? key path) := by
  cases s with
  | put changed entry =>
      exact (get?_put key shelf changed path entry).trans (getD_lookup_singleton ..).symm
  | remove changed =>
      exact (get?_remove key shelf changed path).trans (getD_lookup_singleton ..).symm
  | select asked tag => rfl

/-- A selection asks for its path once, whether or not there is a log. -/
lemma loads_step (shelf : Shelf Key) (s : Step) :
    (shelf.step key s).2.loads = shelf.loads ++ s.asked?.toList := by
  cases s with
  | put path entry => simp [step, put, remove, Step.asked?]
  | remove path => simp [step, remove, Step.asked?]
  | select path tag => rfl

/-! ## Histories -/

/-- The changes of a history, in their order. -/
def changes (steps : List Step) : List (Key × Option ShelfEntry) :=
  steps.filterMap (Step.change? key)

/-- The paths that a history asks for, in their order. -/
def asked (steps : List Step) : List Octets :=
  steps.filterMap Step.asked?

/-- What the latest change for a path has left there; nothing if there was none. -/
def latest (path : Octets) (steps : List Step) : Option ShelfEntry :=
  ((changes key steps).reverse.lookup (key path)).getD none

lemma get?_after (shelf : Shelf Key) (steps : List Step) (path : Octets) :
    (History.after (step key) shelf steps).get? key path =
      ((changes key steps).reverse.lookup (key path)).getD (shelf.get? key path) := by
  induction steps using List.reverseRecOn with
  | nil => rfl
  | append_singleton steps s ih =>
      have hchanges : (changes key (steps ++ [s])).reverse =
          (s.change? key).toList ++ (changes key steps).reverse := by
        cases h : s.change? key <;> simp [changes, h]
      rw [History.after_concat, get?_step, ih, hchanges, List.lookup_append, Option.getD_or]

lemma get?_after_empty (steps : List Step) (path : Octets) :
    (History.after (step key) {} steps).get? key path = latest key path steps :=
  get?_after key {} steps path

lemma loads_after (shelf : Shelf Key) (steps : List Step) :
    (History.after (step key) shelf steps).loads = shelf.loads ++ asked steps := by
  induction steps using List.reverseRecOn with
  | nil => exact (List.append_nil _).symm
  | append_singleton steps s ih =>
      have hasked : asked (steps ++ [s]) = asked steps ++ s.asked?.toList := by
        cases h : s.asked? <;> simp [asked, h]
      rw [History.after_concat, loads_step, ih, hasked, List.append_assoc]

/-! ## Answers -/

/-- What a selection comes to when an entry lies at its path, or none does. -/
def reply (path : Octets) (tag : Tag) : Option ShelfEntry → Except Failure (List Line)
  | some (.content content) => .ok (LogSieve.select tag content)
  | some (.faulty fault) => .error (.unreadable path fault)
  | some (.illEncoded line) => .error (.illEncoded path line)
  | none => .error (.unreadable path (Fault.ofKind .notFound))

lemma outcome_select (shelf : Shelf Key) (path : Octets) (tag : Tag) :
    ((shelf.source key).select path tag).outcome = reply path tag (shelf.get? key path) := by
  rw [Source.select_eq, source]
  cases shelf.get? key path with
  | none => rfl
  | some entry => cases entry <;> rfl

lemma step_select (shelf : Shelf Key) (path : Octets) (tag : Tag) :
    shelf.step key (.select path tag) =
      (.selected (reply path tag (shelf.get? key path)) (shelf.loads ++ [path]),
        { shelf with loads := shelf.loads ++ [path] }) := by
  rw [← outcome_select]
  rfl

/-- An answer without the paths asked for so far. -/
def Answer.withoutLoads : Answer → Answer
  | .selected result _ => .selected result []
  | .occupied before => .occupied before

/-- At each path the two shelves hold the same. -/
def HoldSame (first second : Shelf Key) : Prop :=
  ∀ path, first.get? key path = second.get? key path

variable {key}

lemma HoldSame.answer {first second : Shelf Key} (h : HoldSame key first second) (s : Step) :
    (first.step key s).1.withoutLoads = (second.step key s).1.withoutLoads := by
  cases s with
  | put path entry => simp only [step, h path]
  | remove path => simp only [step, h path]
  | select path tag => simp only [step_select, h path, Answer.withoutLoads]

variable (key)

/-- What was asked for cannot be told from the answers to other steps, nor do selections change what a
shelf holds. -/
lemma blind_step :
    History.Blind (step key) Answer.withoutLoads (fun s => s.change? key = none)
      (HoldSame key) where
  answer h s := h.answer s
  next h s path := by rw [get?_step, get?_step, h path]
  next_idle h s hidle path := by rw [get?_step, hidle, ← h path]; rfl

/-- **Selections and the latest changes.**  Starting with an empty shelf, a selection answers with the
lines of what the latest change for its path has put there, or with the failure that it has put there,
or that there is nothing; it asks for that path, once and for no other, and leaves the entries as they
are.  If any selections are taken out of a history, all other steps are answered as before, as far as
the entries go.  All this holds whichever paths the shelf takes for the same. -/
theorem run_select_eq_latest (before rest : List Step) (path : Octets) (tag : Tag) :
    (({} : Shelf Key).run key (before ++ .select path tag :: rest))[before.length]? =
        some (.selected (reply path tag (latest key path before)) (asked before ++ [path])) ∧
      (History.after (step key) {} before).loads = asked before ∧
      History.after (step key) {} (before ++ [.select path tag]) =
        { History.after (step key) {} before with loads := asked before ++ [path] } ∧
      ∀ entries : List (Step × Bool),
        (∀ entry ∈ entries, entry.2 = false → ∃ path tag, entry.1 = .select path tag) →
          (({} : Shelf Key).run key (History.kept entries)).map Answer.withoutLoads =
            History.kept (((({} : Shelf Key).run key (entries.map (·.1))).map
              Answer.withoutLoads).zip (entries.map (·.2))) := by
  have hloads : (History.after (step key) {} before).loads = asked before :=
    loads_after key {} before
  have hstep := step_select key (History.after (step key) {} before) path tag
  rw [get?_after_empty, hloads] at hstep
  refine ⟨?_, hloads, ?_, fun entries hentries => ?_⟩
  · rw [run, History.getElem?_answers, hstep]
  · rw [History.after_concat, hstep]
  · refine (blind_step key).answers_kept (fun _ => rfl) entries fun entry hentry hout => ?_
    obtain ⟨path, tag, hselect⟩ := hentries entry hentry hout
    rw [hselect]
    rfl

/-- A shelf that takes all spellings of a path for one.  A log is put in the place of a failure and
found under another spelling, which is free as well when the log is taken away; a path that begins
where it is has an entry of its own.  Two selections in the middle are taken out. -/
theorem run_select_eq_latest_of_spellings :
    let one := Text.encode "a/b".toList
    let again := Text.encode "a//./b/".toList
    let two := Text.encode "./a/b".toList
    let tag : Tag := ⟨"t".toList⟩
    let before : List Step :=
      [.put one (.faulty Fault.noSpace), .select one tag, .put again (.content "[t] a\r[u] b".toList),
        .select one tag, .put two (.illEncoded 7), .remove one]
    let run (steps : List Step) : List Answer := ({} : Shelf Path.Identity).run Path.identity steps
    (run (before ++ [.select two tag, .select one tag]))[6]? =
        some (.selected (.error (.illEncoded two 7)) [one, one, two]) ∧
      (run (before ++ [.select again tag]))[6]? =
        some (.selected (.error (.unreadable again (Fault.ofKind .notFound))) [one, one, again]) ∧
      (run (before.take 4))[3]? = some (.selected (.ok ["[t] a".toList]) [one, one]) ∧
      (run [.put one (.faulty Fault.noSpace), .put again (.content "[t] a\r[u] b".toList),
          .put two (.illEncoded 7), .remove one, .select two tag]).map Answer.withoutLoads =
        [.occupied false, .occupied true, .occupied false, .occupied true,
          .selected (.error (.illEncoded two 7)) []] := by
  intro one again two tag before run
  obtain ⟨htwo, -, -, hkept⟩ :=
    run_select_eq_latest Path.identity before [.select one tag] two tag
  obtain ⟨hagain, -, -, -⟩ := run_select_eq_latest Path.identity before [] again tag
  obtain ⟨hone, -, -, -⟩ := run_select_eq_latest Path.identity (before.take 3) [] one tag
  refine ⟨htwo, hagain, hone, ?_⟩
  have hselections : ∀ entry ∈ (before ++ [Step.select two tag]).zip
      [true, false, true, false, true, true, true],
      entry.2 = false → ∃ path tag, entry.1 = .select path tag := by
    simp [before]
  exact hkept _ hselections

end LogSieve.Shelf
