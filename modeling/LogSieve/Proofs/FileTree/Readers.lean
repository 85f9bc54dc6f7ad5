import LogSieve.FileTree.History
import LogSieve.Proofs.History
import LogSieve.Proofs.Invocation.Work

/-!
# The readers of a tree of files

A log can be read from a tree as it is, cut into lines, or with lines selected from it and joined.
These are three ways to one answer: what one of them fails with, the others fail with, and otherwise
all of them start from the same content.  None of them leaves a trace.

* `Unavailable` — the failures with which a log cannot be had from a tree, and when each arises.
  `source_cases` says that there is no other way for it not to be had.
* `run_readers_of_error`, `run_readers_of_ok` — the three readers one after the other.
* `blind_step` — readings can be left out of a history.
* **`readers_agree_and_leave_no_trace`** — the three readers at the end of any history, and histories
  that readings are taken out of.
-/

namespace LogSieve.FileTree

variable {tree : FileTree} {path : Octets}

/-! ## What the readers start from -/

/-- A failure with which the log at a path cannot be had. -/
inductive Unavailable (tree : FileTree) (path : Octets) : Failure → Prop
  | unreadable {fault : Fault} :
      tree.read path = .error fault → Unavailable tree path (.unreadable path fault)
  /-- The file is there, but its octets are no text. -/
  | illEncoded {octets : Octets} :
      tree.read path = .ok octets → (¬ ∃ content, Text.encode content = octets) →
      Unavailable tree path (.illEncoded path (Line.numberAfter (Utf8.wellFormedHead octets)))

lemma outcome_source_of_unavailable {failure : Failure} (h : tree.Unavailable path failure) :
    (tree.source path).outcome = .error failure := by
  cases h with
  | unreadable hread =>
      rw [source, hread]
      rfl
  | illEncoded hread hcontent =>
      rw [source, hread, Log.receive, ofOctets_eq_error (Utf8.decode?_eq_none_iff.2 hcontent),
        Line.numberAfter_eq]

lemma outcome_source_of_read {content : Text} (h : tree.read path = .ok (Text.encode content)) :
    (tree.source path).outcome = .ok ⟨path, content⟩ := by
  rw [source, h, Log.receive, ofOctets_eq_ok rfl]

lemma source_cases (tree : FileTree) (path : Octets) :
    (∃ failure, tree.Unavailable path failure) ∨
      ∃ content, tree.read path = .ok (Text.encode content) := by
  cases hread : tree.read path with
  | error fault => exact Or.inl ⟨_, .unreadable hread⟩
  | ok octets =>
      by_cases hcontent : ∃ content, Text.encode content = octets
      · obtain ⟨content, rfl⟩ := hcontent
        exact Or.inr ⟨content, rfl⟩
      · exact Or.inl ⟨_, .illEncoded hread hcontent⟩

/-! ## The three readers -/

/-- The three ways of reading from a path. -/
def readers (path : Octets) (tag : Tag) : List Step :=
  [.read path, .split path, .select path tag]

lemma run_readers_of_error {failure : Failure} (h : (tree.source path).outcome = .error failure)
    (tag : Tag) : tree.run (readers path tag) =
      [.log (.error failure), .lines (.error failure), .text (.error failure)] := by
  have hsource : tree.source path = ⟨(tree.source path).events, .error failure⟩ := by rw [← h]
  have hselect := Source.selectJoined_of_error hsource tag
  simp only [run, readers, History.answers, step, h, hselect, Except.map]

lemma run_readers_of_ok {content : Text} (h : (tree.source path).outcome = .ok ⟨path, content⟩)
    (tag : Tag) : tree.run (readers path tag) =
      [.log (.ok ⟨path, content⟩), .lines (.ok (Line.split content)),
        .text (.ok (Line.join (LogSieve.select tag content)))] := by
  have hsource : tree.source path = ⟨(tree.source path).events, .ok ⟨path, content⟩⟩ := by rw [← h]
  have hselect := Source.selectJoined_of_ok hsource tag
  simp only [run, readers, History.answers, step, h, hselect, Except.map]

/-- Only a change makes a difference to what follows. -/
lemma blind_step :
    History.Blind step id (fun s => s.isReading = true) (Eq (α := FileTree)) where
  answer h _ := by rw [h]
  next h _ := by rw [h]
  next_idle h s hreading := (step_of_isReading _ hreading).trans h

/-- **Three readers, one answer, no trace.**  Whatever has been done to a tree, the three readers of a
path fail in the same way, for a reason that has to do with the path or with what is there, or they
all start from the content that is there: as a log under the path that was given, as its lines, and as
the selected lines joined.  No tag makes a difference to whether they fail.  If any readings are taken
out of a history, all other steps are answered as before. -/
theorem readers_agree_and_leave_no_trace (tree : FileTree) (steps : List Step) (path : Octets) :
    ((∃ failure, (History.after step tree steps).Unavailable path failure ∧
        ∀ tag, tree.run (steps ++ readers path tag) = tree.run steps ++
          [.log (.error failure), .lines (.error failure), .text (.error failure)]) ∨
      ∃ content, (History.after step tree steps).read path = .ok (Text.encode content) ∧
        ∀ tag, tree.run (steps ++ readers path tag) = tree.run steps ++
          [.log (.ok ⟨path, content⟩), .lines (.ok (Line.split content)),
            .text (.ok (Line.join (LogSieve.select tag content)))]) ∧
      ∀ entries : List (Step × Bool),
        (∀ entry ∈ entries, entry.2 = false → entry.1.isReading = true) →
          tree.run (History.kept entries) =
            History.kept ((tree.run (entries.map (·.1))).zip (entries.map (·.2))) := by
  constructor
  · rcases source_cases (History.after step tree steps) path with
      ⟨failure, hfailure⟩ | ⟨content, hcontent⟩
    · refine Or.inl ⟨failure, hfailure, fun tag => ?_⟩
      rw [run, History.answers_append]
      exact congrArg _ (run_readers_of_error (outcome_source_of_unavailable hfailure) tag)
    · refine Or.inr ⟨content, hcontent, fun tag => ?_⟩
      rw [run, History.answers_append]
      exact congrArg _ (run_readers_of_ok (outcome_source_of_read hcontent) tag)
  · intro entries hreading
    have hkept := blind_step.answers_kept (Eq.refl tree) entries hreading
    rwa [List.map_id, List.map_id] at hkept

/-- A file is made, read, and continued with octets that are no text; then it is taken for a
directory.  The two readings on the way are taken out. -/
theorem readers_agree_and_leave_no_trace_after_append :
    let path := Text.encode "d/f".toList
    let tag : Tag := ⟨"t".toList⟩
    let write : Step := .write path (Text.encode "[t] a\r[u] b".toList)
    let append : Step := .append path [0xE2, 0x80]
    let steps : List Step :=
      [write, .select path tag, append, .read (Text.encode "d/f/x".toList)]
    (∃ failure, ∀ tag, scratch.run (steps ++ readers path tag) = scratch.run steps ++
        [.log (.error failure), .lines (.error failure), .text (.error failure)]) ∧
      scratch.run [write, append, .split path] =
        [.changed (.ok ()), .changed (.ok ()), .lines (.error (.illEncoded path 2))] := by
  intro path tag write append steps
  obtain ⟨hreaders, hkept⟩ := readers_agree_and_leave_no_trace scratch steps path
  have hreached : (History.after step scratch steps).read path =
      .ok (Text.encode "[t] a\r[u] b".toList ++ [0xE2, 0x80]) := by decide +kernel
  have hcontent : ¬ ∃ content, Text.encode content =
      Text.encode "[t] a\r[u] b".toList ++ [0xE2, 0x80] := Utf8.decode?_eq_none_iff.1 (by decide)
  have hmarks : ∀ entry ∈ (steps ++ [Step.split path]).zip [true, false, true, false, true],
      entry.2 = false → entry.1.isReading = true := by decide
  refine ⟨?_, hkept _ hmarks⟩
  rcases hreaders with ⟨failure, -, hrun⟩ | ⟨content, hread, -⟩
  · exact ⟨failure, hrun⟩
  · rw [hreached] at hread
    exact absurd ⟨content, (Except.ok.inj hread).symm⟩ hcontent

end LogSieve.FileTree
