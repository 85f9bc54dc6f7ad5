import LogSieve.Proofs.Invocation.Work

/-!
# How a run ends

A run may be over after each of its parts.  Here all ends are listed, each with what was true of the
invocation, with the code, and with everything that was printed and said.  What the reader of the
command line says and which events the journal shows stand in the list as they come; nothing is
supposed about either.

* `Invocation.Concludes` — the list of ends.  `Concludes.eq_runWith` goes through it, and
  `exists_concludes` says that nothing is missing from it.
* `conclude_failure`, `conclude_usage`, `conclude_text_working`, `conclude_text_failing` — the last
  part of a run, for each kind of work and of output.
* **`Invocation.run_eq_iff_concludes`** — the list describes a run, provided that the journal does not
  give up over its setting; `Invocation.run_of_fatal_setting` is what happens if it does.
-/

namespace LogSieve

namespace Invocation

variable {invocation : Invocation} {shows : Event → Bool} {fault : Fault}

/-! ## The ends -/

/-- What a run says that fails after some events. -/
def complaint (invocation : Invocation) (shows : Event → Bool) (events : List Event)
    (failure : Failure) : Text :=
  invocation.shown shows events ++ "Error: ".toList ++ failure.message ++ ['\n']

/-- The ends of a run. -/
inductive Concludes (invocation : Invocation) (shows : Event → Bool) : Outcome → Prop
  /-- Help or the version was asked for.  It is no failure if it does not get through. -/
  | answered {flag : Flag} :
      invocation.reading = .error (.requested flag) →
      Concludes invocation shows
        { ending := .exited 0
          printed := invocation.output.passed
            (Text.encode (invocation.answer (.requested flag))) }
  | refused {refusal : Refusal} :
      invocation.reading = .error refusal → refusal.isRequested = false →
      Concludes invocation shows
        { ending := .exited 2
          diagnostics := invocation.answer refusal }
  /-- The usage line is printed, although the run failed. -/
  | instructed :
      invocation.AsksTooLittle → invocation.output = .working →
      Concludes invocation shows
        { ending := .exited 1
          printed := Text.encode (invocation.tool.usageLine.toList ++ ['\n']) }
  /-- The usage line cannot be printed.  The tool itself has nothing to say about that. -/
  | stranded {fault : Fault} :
      invocation.AsksTooLittle → invocation.output = .failing fault →
      Concludes invocation shows
        { ending := .crashed
          diagnostics := invocation.lament (.usageLine fault) }
  /-- Nothing has been read, so there are no events.  The output was not used. -/
  | unreadable {request : Request} {fault : Fault} :
      invocation.Asks request → invocation.files request.logFile = .error fault →
      Concludes invocation shows
        { ending := .exited 1
          diagnostics := invocation.complaint shows [] (.unreadable request.logFile fault) }
  /-- No line of the log is printed, not even one in front of the first octet that is wrong. -/
  | illEncoded {request : Request} {octets : Octets} :
      invocation.Asks request → invocation.files request.logFile = .ok octets →
      (¬ ∃ content, Text.encode content = octets) →
      Concludes invocation shows
        { ending := .exited 1
          diagnostics := invocation.complaint shows
            [.read request.logFile octets.length, .illEncoded request.logFile (badLine octets)]
            (.illEncoded request.logFile (badLine octets)) }
  | printed {request : Request} {content : Text} :
      invocation.Asks request → invocation.files request.logFile = .ok (Text.encode content) →
      invocation.output = .working →
      Concludes invocation shows
        { ending := .exited 0
          printed := Text.encode (Line.join (select request.tag content) ++ ['\n'])
          diagnostics := invocation.shown shows (selectionEvents request content) }
  /-- The reader has gone away. -/
  | unheard {request : Request} {content : Text} {fault : Fault} :
      invocation.Asks request → invocation.files request.logFile = .ok (Text.encode content) →
      invocation.output = .failing fault → fault.kind = .brokenPipe →
      Concludes invocation shows
        { ending := .exited 0
          diagnostics := invocation.shown shows (selectionEvents request content) }
  | unwritable {request : Request} {content : Text} {fault : Fault} :
      invocation.Asks request → invocation.files request.logFile = .ok (Text.encode content) →
      invocation.output = .failing fault → fault.kind ≠ .brokenPipe →
      Concludes invocation shows
        { ending := .exited 1
          diagnostics := invocation.complaint shows (selectionEvents request content)
            (.unwritable fault) }

/-! ## The list against the run -/

lemma runWith_of_refusal {refusal : Refusal} (hparse : invocation.reading = .error refusal) :
    invocation.runWith shows = invocation.refuse refusal := by
  rw [runWith, hparse]

/-- A failure before anything was written is a complaint, unless it is the usage line. -/
lemma conclude_failure {failure : Failure} (hfailure : failure.isUsage = false)
    (events : List Event) :
    invocation.conclude shows ⟨events, .error failure⟩ =
      { ending := .exited 1
        diagnostics := invocation.complaint shows events failure } := by
  have hempty : invocation.output.sink.received.toList = [] := by
    cases invocation.output <;> rfl
  simp only [conclude, report, hfailure, hempty, Failure.exitCode, complaint]
  rfl

lemma report_usage (sink : Sink) (said line : Text) :
    invocation.report sink said (.usage line) =
      match sink.writeAll (Text.encode (line ++ ['\n'])) with
      | (after, .ok ()) =>
        { ending := .exited 1
          printed := after.received.toList
          diagnostics := said }
      | (after, .error fault) =>
        { ending := .crashed
          printed := after.received.toList
          diagnostics := said ++ invocation.lament (.usageLine fault) } := by
  rw [report]
  rfl

lemma conclude_usage (line : Text) :
    invocation.conclude shows (.failed (.usage line)) =
      invocation.report invocation.output.sink [] (.usage line) := rfl

lemma conclude_usage_working (hout : invocation.output = .working) (line : Text) :
    invocation.conclude shows (.failed (.usage line)) =
      { ending := .exited 1
        printed := Text.encode (line ++ ['\n']) } := by
  rw [conclude_usage, report_usage, hout, Output.writeAll_working]
  simp only [Output.received_filled_sink_working]

lemma conclude_usage_failing (hout : invocation.output = .failing fault) (line : Text) :
    invocation.conclude shows (.failed (.usage line)) =
      { ending := .crashed
        diagnostics := invocation.lament (.usageLine fault) } := by
  have hne : Text.encode (line ++ ['\n']) ≠ [] := by simp
  rw [conclude_usage, report_usage, hout, Output.writeAll_failing fault hne]
  rfl

lemma conclude_text_working (hout : invocation.output = .working) (events : List Event)
    (text : Text) :
    invocation.conclude shows ⟨events, .ok text⟩ =
      { ending := .exited 0
        printed := Text.encode (text ++ ['\n'])
        diagnostics := invocation.shown shows events } := by
  obtain ⟨after, hprint, hreceived⟩ := Output.print_working text
  simp only [conclude, hout, hprint, hreceived]

lemma conclude_text_failing (hout : invocation.output = .failing fault) (events : List Event)
    (text : Text) :
    invocation.conclude shows ⟨events, .ok text⟩ =
      if fault.kind = .brokenPipe then
        { ending := .exited 0
          diagnostics := invocation.shown shows events }
      else
        { ending := .exited 1
          diagnostics := invocation.complaint shows events (.unwritable fault) } := by
  simp only [conclude, hout, Output.print_failing]
  split_ifs <;> rfl

/-- Each end in the list is the end of the run. -/
lemma Concludes.eq_runWith {outcome : Outcome} (h : Concludes invocation shows outcome) :
    invocation.runWith shows = outcome := by
  cases h with
  | answered hparse =>
      rw [runWith_of_refusal hparse, refuse]
      simp only [Refusal.isRequested, if_true, Output.received_writeAll]
      rfl
  | refused hparse hrefusal =>
      rw [runWith_of_refusal hparse, refuse]
      simp only [hrefusal, Refusal.exitCode, Bool.false_eq_true, if_false]
  | instructed hasks hout => rw [hasks.runWith_eq, conclude_usage_working hout]
  | stranded hasks hout => rw [hasks.runWith_eq, conclude_usage_failing hout]
  | unreadable hasks hfile =>
      rw [hasks.runWith_eq, selectJoined_unreadable hfile, conclude_failure rfl]
  | illEncoded hasks hfile hcontent =>
      rw [hasks.runWith_eq, selectJoined_illEncoded hfile hcontent, conclude_failure rfl]
  | printed hasks hfile hout =>
      rw [hasks.runWith_eq, selectJoined_wellFormed hfile, conclude_text_working hout]
  | unheard hasks hfile hout hkind =>
      rw [hasks.runWith_eq, selectJoined_wellFormed hfile, conclude_text_failing hout, if_pos hkind]
  | unwritable hasks hfile hout hkind =>
      rw [hasks.runWith_eq, selectJoined_wellFormed hfile, conclude_text_failing hout, if_neg hkind]

/-- No end is missing in the list. -/
lemma exists_concludes (invocation : Invocation) (shows : Event → Bool) :
    ∃ outcome, Concludes invocation shows outcome := by
  cases hparse : invocation.reading with
  | error refusal =>
      cases hrefusal : refusal.isRequested with
      | false => exact ⟨_, .refused hparse hrefusal⟩
      | true =>
          obtain ⟨flag, rfl⟩ : ∃ flag, refusal = .requested flag := by
            cases refusal <;> simp_all [Refusal.isRequested]
          exact ⟨_, .answered hparse⟩
  | ok parsed =>
      rcases asks_or_asksTooLittle hparse with ⟨request, hasks⟩ | hasks
      · cases hfile : invocation.files request.logFile with
        | error fault => exact ⟨_, .unreadable hasks hfile⟩
        | ok octets =>
            by_cases hcontent : ∃ content, Text.encode content = octets
            · obtain ⟨content, rfl⟩ := hcontent
              cases hout : invocation.output with
              | working => exact ⟨_, .printed hasks hfile hout⟩
              | failing fault =>
                  by_cases hkind : fault.kind = .brokenPipe
                  · exact ⟨_, .unheard hasks hfile hout hkind⟩
                  · exact ⟨_, .unwritable hasks hfile hout hkind⟩
            · exact ⟨_, .illEncoded hasks hfile hcontent⟩
      · cases hout : invocation.output with
        | working => exact ⟨_, .instructed hasks hout⟩
        | failing fault => exact ⟨_, .stranded hasks hout⟩

lemma run_of_setting (h : invocation.journal.filter? invocation.setting = some shows) :
    invocation.run = invocation.runWith shows := by
  rw [run, h]

/-- A journal that gives up over its setting ends the run before the command line is looked at. -/
lemma run_of_fatal_setting (h : invocation.journal.filter? invocation.setting = none) :
    invocation.run = { ending := .crashed, diagnostics := invocation.lament .setting } := by
  rw [run, h]

/-- **The list describes a run.**  Unless the journal gives up over its setting, a run ends as the list
says, and in no other way. -/
theorem run_eq_iff_concludes (h : invocation.journal.filter? invocation.setting = some shows)
    (outcome : Outcome) : invocation.run = outcome ↔ Concludes invocation shows outcome := by
  rw [run_of_setting h]
  constructor
  · rintro rfl
    obtain ⟨outcome, hconcludes⟩ := exists_concludes invocation shows
    rwa [hconcludes.eq_runWith]
  · exact Concludes.eq_runWith

end Invocation

end LogSieve
