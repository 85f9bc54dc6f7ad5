import LogSieve.Proofs.Invocation.Conclusion

/-!
# What a setting decides

A setting says how much a run tells about its work, and it should say no more than that.  So what a run
notes is fixed before the setting is looked at, and so are its end, what it prints, and what it says
when it is over.  The setting picks events from what is noted.

* `Notes` — the events that a run notes and what it says after them, for each kind of work.
* `Concludes.exists_notes` — each end in the list of ends, for all choices of events at once.
* **`run_picks_from_notes`** — an invocation with any setting and any journal.  What is left over are
  the settings over which the journal gives up.
-/

namespace LogSieve

namespace Invocation

variable {invocation : Invocation} {shows : Event → Bool} {outcome : Outcome}

/-- The same invocation in an environment with another setting. -/
def withSetting (invocation : Invocation) (setting : Option Octets) : Invocation :=
  { invocation with setting }

/-- What a run says in the end when it fails. -/
def excuse (failure : Failure) : Text :=
  "Error: ".toList ++ failure.message ++ ['\n']

/-- The events that a run notes, and what it says after those of them that are shown. -/
inductive Notes (invocation : Invocation) : List Event → Text → Prop
  /-- There is no log to be read. -/
  | idle {closing : Text} : (∀ request, ¬ invocation.Asks request) → Notes invocation [] closing
  | unreadable {request : Request} {fault : Fault} {closing : Text} :
      invocation.Asks request → invocation.files request.logFile = .error fault →
      Notes invocation [] closing
  /-- The failure names the line that the event names. -/
  | illEncoded {request : Request} {octets : Octets} :
      invocation.Asks request → invocation.files request.logFile = .ok octets →
      (¬ ∃ content, Text.encode content = octets) →
      Notes invocation
        [.read request.logFile octets.length, .illEncoded request.logFile (badLine octets)]
        (excuse (.illEncoded request.logFile (badLine octets)))
  | wellFormed {request : Request} {content : Text} {closing : Text} :
      invocation.Asks request → invocation.files request.logFile = .ok (Text.encode content) →
      Notes invocation (selectionEvents request content) closing

lemma Notes.of_refused {refusal : Refusal} {closing : Text}
    (hparse : invocation.reading = .error refusal) : Notes invocation [] closing := by
  refine .idle fun request hasks => ?_
  obtain ⟨parsed, hparsed, -⟩ := hasks
  rw [hparse] at hparsed
  cases hparsed

lemma Notes.of_incomplete {closing : Text} (h : invocation.AsksTooLittle) :
    Notes invocation [] closing :=
  .idle h.not_asks

lemma complaint_eq (shows : Event → Bool) (events : List Event) (failure : Failure) :
    invocation.complaint shows events failure =
      invocation.shown shows events ++ excuse failure := by
  unfold complaint excuse
  -- Kept as a literal, the first word is evaluated each time it is compared with another text.
  generalize "Error: ".toList = word
  rw [List.append_assoc, List.append_assoc, List.append_assoc]

/-- The same end is reached whatever the journal shows.  Only the events in front of what is said may
differ. -/
lemma Concludes.exists_notes (h : Concludes invocation shows outcome) :
    ∃ events closing, Notes invocation events closing ∧ ∀ other, Concludes invocation other
      { outcome with diagnostics := invocation.shown other events ++ closing } := by
  cases h with
  | answered hparse => exact ⟨[], [], .of_refused hparse, fun _ => .answered hparse⟩
  | refused hparse hrefusal =>
      exact ⟨[], _, .of_refused hparse, fun _ => .refused hparse hrefusal⟩
  | instructed hasks hout =>
      exact ⟨[], [], .of_incomplete hasks, fun _ => .instructed hasks hout⟩
  | stranded hasks hout => exact ⟨[], _, .of_incomplete hasks, fun _ => .stranded hasks hout⟩
  | @unreadable request fault hasks hfile =>
      refine ⟨[], excuse (.unreadable request.logFile fault), .unreadable hasks hfile,
        fun other => ?_⟩
      rw [← complaint_eq]
      exact .unreadable hasks hfile
  | illEncoded hasks hfile hcontent =>
      refine ⟨_, _, .illEncoded hasks hfile hcontent, fun other => ?_⟩
      rw [← complaint_eq]
      exact .illEncoded hasks hfile hcontent
  | printed hasks hfile hout =>
      refine ⟨_, [], .wellFormed hasks hfile, fun other => ?_⟩
      rw [List.append_nil]
      exact .printed hasks hfile hout
  | unheard hasks hfile hout hkind =>
      refine ⟨_, [], .wellFormed hasks hfile, fun other => ?_⟩
      rw [List.append_nil]
      exact .unheard hasks hfile hout hkind
  | @unwritable request content fault hasks hfile hout hkind =>
      refine ⟨_, excuse (.unwritable fault), .wellFormed hasks hfile, fun other => ?_⟩
      rw [← complaint_eq]
      exact .unwritable hasks hfile hout hkind

/-- **A setting picks from what is noted.**  How a run ends, what it prints, what it notes and what it
says after that is fixed by everything but the setting.  With each setting that the journal makes a
choice from, its own or the fallback, the run comes to just that, and what it says begins with the
events that are chosen, in their order.  The other settings end every run before it has begun. -/
theorem run_picks_from_notes (invocation : Invocation) :
    ∃ ending printed events closing, invocation.Notes events closing ∧
      (∀ setting shows, invocation.journal.filter? setting = some shows →
        (invocation.withSetting setting).run =
          { ending
            printed
            diagnostics :=
              Line.close ((events.filter shows).map invocation.journal.line) ++ closing }) ∧
      ∀ setting, invocation.journal.filter? setting = none →
        (invocation.withSetting setting).run =
          { ending := .crashed, diagnostics := invocation.lament .setting } := by
  obtain ⟨outcome, hconcludes⟩ := exists_concludes invocation fun _ => true
  obtain ⟨events, closing, hnotes, hends⟩ := hconcludes.exists_notes
  refine ⟨outcome.ending, outcome.printed, events, closing, hnotes,
    fun setting shows hsetting => ?_, fun setting hsetting => ?_⟩
  · have hsame : (invocation.withSetting setting).runWith shows = invocation.runWith shows := rfl
    rw [run_of_setting hsetting, hsame, (hends shows).eq_runWith]
    rfl
  · rw [run_of_fatal_setting hsetting]
    rfl

end Invocation

end LogSieve
