import LogSieve.Proofs.Invocation.Agreement

/-!
# Runs that end with a code of their own

A run should end with one of its codes whatever it meets.  It is given up in the middle for two
reasons: a journal that gives up over its setting, and a usage line that does not get through.
Nothing else that is printed or said has that effect.

* `Concludes.exited_or_stranded` — of the ends in the list, only one is without a code.
* `Invocation.runWith_crashes_iff` — the second of the two reasons.
* **`Invocation.run_crashes_iff`** — both, for every reader, journal and output.
-/

namespace LogSieve

namespace Invocation

variable {invocation : Invocation} {shows : Event → Bool} {outcome : Outcome}

/-- The codes with which a tool ends. -/
def exitCodes : List Nat :=
  [0, 1, 2]

/-- A run comes to an end of its own, or it is the usage line that does not get through. -/
lemma Concludes.exited_or_stranded (h : Concludes invocation shows outcome) :
    (∃ code ∈ exitCodes, outcome.ending = .exited code) ∨
      (invocation.AsksTooLittle ∧ invocation.output ≠ .working) := by
  cases h with
  | answered => exact Or.inl ⟨0, by decide, rfl⟩
  | refused => exact Or.inl ⟨2, by decide, rfl⟩
  | instructed => exact Or.inl ⟨1, by decide, rfl⟩
  | stranded hasks hout => exact Or.inr ⟨hasks, by rw [hout]; exact nofun⟩
  | unreadable => exact Or.inl ⟨1, by decide, rfl⟩
  | illEncoded => exact Or.inl ⟨1, by decide, rfl⟩
  | printed => exact Or.inl ⟨0, by decide, rfl⟩
  | unheard => exact Or.inl ⟨0, by decide, rfl⟩
  | unwritable => exact Or.inl ⟨1, by decide, rfl⟩

lemma usageEnding_eq_crashed_iff (output : Output) :
    usageEnding output = .crashed ↔ output ≠ .working := by
  cases output <;> simp [usageEnding]

/-- The usage line is what a run may be given up for once the journal has made its choice. -/
lemma runWith_crashes_iff (invocation : Invocation) (shows : Event → Bool) :
    (invocation.runWith shows).ending = .crashed ↔
      invocation.AsksTooLittle ∧ invocation.output ≠ .working := by
  constructor
  · intro hcrashed
    obtain ⟨outcome, hconcludes⟩ := exists_concludes invocation shows
    rw [hconcludes.eq_runWith] at hcrashed
    rcases hconcludes.exited_or_stranded with ⟨code, -, hexited⟩ | hstranded
    · rw [hexited] at hcrashed
      cases hcrashed
    · exact hstranded
  · rintro ⟨hlittle, hout⟩
    rw [ending_of_incomplete hlittle]
    exact (usageEnding_eq_crashed_iff _).2 hout

lemma ending_of_runWith (invocation : Invocation) (shows : Event → Bool) :
    (invocation.runWith shows).ending = .crashed ∨
      ∃ code ∈ exitCodes, (invocation.runWith shows).ending = .exited code := by
  obtain ⟨outcome, hconcludes⟩ := exists_concludes invocation shows
  rcases hconcludes.exited_or_stranded with hexited | hstranded
  · exact Or.inr (hconcludes.eq_runWith ▸ hexited)
  · exact Or.inl ((runWith_crashes_iff invocation shows).2 hstranded)

/-- **When a run crashes.**  It does so if the journal gives up over its setting, or if it has a usage
line to print and the output fails; otherwise it ends with one of its codes, whatever the tool, the
arguments, the files and the output are, and whatever the reader makes of the arguments. -/
theorem run_crashes_iff (invocation : Invocation) :
    (invocation.run.ending = .crashed ↔
        invocation.journal.filter? invocation.setting = none ∨
          (invocation.AsksTooLittle ∧ invocation.output ≠ .working)) ∧
      (invocation.run.ending = .crashed ∨
        ∃ code ∈ exitCodes, invocation.run.ending = .exited code) := by
  cases hsetting : invocation.journal.filter? invocation.setting with
  | none => simp [run_of_fatal_setting hsetting]
  | some shows =>
      simp only [run_of_setting hsetting, runWith_crashes_iff, reduceCtorEq, false_or, true_and]
      rw [← runWith_crashes_iff invocation shows]
      exact ending_of_runWith invocation shows

end Invocation

end LogSieve
