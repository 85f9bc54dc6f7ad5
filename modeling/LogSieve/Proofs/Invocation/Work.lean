import LogSieve.Invocation
import LogSieve.Proofs.Decoding
import LogSieve.Proofs.Sink

/-!
# The work of a run

What a run does between its command line and its end: it reads a log, selects from it and prints.

* `Output.passed` — an output lets everything through or nothing.  `Output.print_working` and
  `Output.print_failing` say what printing to it comes to.
* `Source.selectJoined_of_ok`, `Source.selectJoined_of_error` — a selection from what a source
  answers.
* `Invocation.Asks` — the invocation asks for a run, and `Asks.runWith_eq` is what it does then.
  `selectJoined_unreadable`, `selectJoined_illEncoded` and `selectJoined_wellFormed` say what the work
  comes to.
-/

namespace LogSieve

/-! ## Outputs -/

namespace Output

/-- What gets through an output. -/
def passed : Output → Octets → Octets
  | .working, octets => octets
  | .failing _, _ => []

variable {octets : Octets} {fault : Fault}

lemma patient_sink_working : (Output.working.sink).Patient :=
  ⟨by simp [sink], by simp [sink]⟩

lemma fits_sink_working (octets : Octets) : Output.working.sink.fits octets = true :=
  Sink.fits_iff.2 nofun

lemma received_filled_sink_working (octets : Octets) :
    (Output.working.sink.filled octets).received.toList = octets := by
  simp [sink, Sink.filled, Sink.room, Sink.takeWithin]

lemma writeAll_working (octets : Octets) :
    Output.working.sink.writeAll octets = (Output.working.sink.filled octets, .ok ()) := by
  rw [Sink.writeAll_eq patient_sink_working, fits_sink_working, if_pos rfl]

/-- The fault ends the writing at once, whatever its kind: no call was interrupted before. -/
lemma writeAll_failing (fault : Fault) (hne : octets ≠ []) :
    (Output.failing fault).sink.writeAll octets = ((Output.failing fault).sink, .error fault) := by
  have hwrite : (Output.failing fault).sink.write octets =
      ((Output.failing fault).sink, .error fault) := by
    have hsome : octets.isEmpty = false := by simpa using hne
    simp [Sink.write, sink, Sink.room, hsome]
  rw [Sink.writeAll, if_neg (by simpa using hne)]
  split
  · next heq => rw [hwrite] at heq; cases heq
  · next heq => rw [hwrite] at heq; cases heq
  · next heq =>
      rw [hwrite] at heq
      cases heq
      exact dif_neg fun h => Nat.lt_irrefl _ h.2

lemma received_writeAll (output : Output) (octets : Octets) :
    (output.sink.writeAll octets).1.received.toList = output.passed octets := by
  cases output with
  | working => rw [writeAll_working, received_filled_sink_working, passed]
  | failing fault =>
      by_cases hne : octets = []
      · rw [hne, Sink.writeAll_nil]
        rfl
      · rw [writeAll_failing fault hne]
        rfl

lemma print_working (text : Text) :
    ∃ after, Output.working.sink.print text = (after, .ok ()) ∧
      after.received.toList = Text.encode (text ++ ['\n']) := by
  refine ⟨_, Sink.print_of_fits patient_sink_working (fits_sink_working _), ?_⟩
  exact received_filled_sink_working _

lemma print_failing (fault : Fault) (text : Text) :
    (Output.failing fault).sink.print text =
      ((Output.failing fault).sink,
        if fault.kind = .brokenPipe then .ok () else .error (.unwritable fault)) := by
  have hline : (Output.failing fault).sink.writeLine text =
      ((Output.failing fault).sink, .error fault) := by
    by_cases hne : Text.encode text = []
    · have hfeed : Text.encode ['\n'] ≠ [] := by decide
      rw [Sink.writeLine, hne, Sink.writeAll_nil]
      simp only [writeAll_failing fault hfeed]
    · rw [Sink.writeLine, writeAll_failing fault hne]
  rw [Sink.print, hline]

end Output

/-! ## Sources -/

namespace Source

variable {source : Source} {path : Octets} {events : List Event}

lemma selectJoined_of_error {failure : Failure} (h : source path = ⟨events, .error failure⟩)
    (tag : Tag) : source.selectJoined path tag = ⟨events, .error failure⟩ := by
  rw [selectJoined, select_eq, h]
  rfl

lemma selectJoined_of_ok {log : Log} (h : source path = ⟨events, .ok log⟩) (tag : Tag) :
    source.selectJoined path tag =
      ⟨events ++ [.selected tag (LogSieve.select tag log.content).length],
        .ok (Line.join (LogSieve.select tag log.content))⟩ := by
  rw [selectJoined, select_eq, h]
  rfl

end Source

namespace Invocation

variable {invocation : Invocation} {parsed : Arguments} {request : Request}
  {shows : Event → Bool} {octets : Octets} {fault : Fault}

/-! ## The work -/

/-- The invocation asks for a run. -/
def Asks (invocation : Invocation) (request : Request) : Prop :=
  ∃ parsed, invocation.reading = .ok parsed ∧ parsed.request invocation.tool = .ok request

/-- A value that a run needs is missing. -/
def AsksTooLittle (invocation : Invocation) : Prop :=
  ∃ parsed, invocation.reading = .ok parsed ∧
    parsed.request invocation.tool = .error (.usage invocation.tool.usageLine.toList)

/-- Where the first octet stands that is wrong. -/
def badLine (octets : Octets) : Nat :=
  Line.numberAfter (Utf8.wellFormedHead octets)

/-- The events of a run that read and selected a content. -/
def selectionEvents (request : Request) (content : Text) : List Event :=
  [.read request.logFile (Text.encode content).length,
    .selected request.tag (select request.tag content).length]

lemma asks_or_asksTooLittle (hparse : invocation.reading = .ok parsed) :
    (∃ request, invocation.Asks request) ∨ invocation.AsksTooLittle := by
  cases hrequest : parsed.request invocation.tool with
  | ok request => exact Or.inl ⟨request, parsed, hparse, hrequest⟩
  | error failure =>
      have husage : failure = .usage invocation.tool.usageLine.toList := by
        unfold Arguments.request at hrequest
        split at hrequest <;> simp_all
      exact Or.inr ⟨parsed, hparse, husage ▸ hrequest⟩

lemma AsksTooLittle.not_asks (h : invocation.AsksTooLittle) (request : Request) :
    ¬ invocation.Asks request := by
  rintro ⟨parsed', hparse', hrequest⟩
  obtain ⟨parsed, hparse, husage⟩ := h
  obtain rfl : parsed = parsed' := Except.ok.inj (hparse.symm.trans hparse')
  rw [husage] at hrequest
  cases hrequest

/-- Once the journal has made its choice, all that a run does is what its request asks for. -/
lemma Asks.runWith_eq (h : invocation.Asks request) :
    invocation.runWith shows =
      invocation.conclude shows
        (invocation.source.selectJoined request.logFile request.tag) := by
  obtain ⟨parsed, hparse, hrequest⟩ := h
  rw [runWith, hparse]
  simp only [account, hrequest]

lemma AsksTooLittle.runWith_eq (h : invocation.AsksTooLittle) :
    invocation.runWith shows =
      invocation.conclude shows (.failed (.usage invocation.tool.usageLine.toList)) := by
  obtain ⟨parsed, hparse, hrequest⟩ := h
  rw [runWith, hparse]
  simp only [account, hrequest]

lemma selectJoined_unreadable (hfile : invocation.files request.logFile = .error fault) :
    invocation.source.selectJoined request.logFile request.tag =
      ⟨[], .error (.unreadable request.logFile fault)⟩ := by
  apply Source.selectJoined_of_error
  rw [source, hfile]
  rfl

lemma selectJoined_illEncoded (hfile : invocation.files request.logFile = .ok octets)
    (hcontent : ¬ ∃ content, Text.encode content = octets) :
    invocation.source.selectJoined request.logFile request.tag =
      ⟨[.read request.logFile octets.length, .illEncoded request.logFile (badLine octets)],
        .error (.illEncoded request.logFile (badLine octets))⟩ := by
  have hlog : Log.ofOctets request.logFile octets =
      .error (.illEncoded request.logFile (badLine octets)) := by
    rw [ofOctets_eq_error (Utf8.decode?_eq_none_iff.2 hcontent), badLine, Line.numberAfter_eq]
  apply Source.selectJoined_of_error
  rw [source, hfile, Log.receive, Log.events, hlog]

lemma selectJoined_wellFormed {content : Text}
    (hfile : invocation.files request.logFile = .ok (Text.encode content)) :
    invocation.source.selectJoined request.logFile request.tag =
      ⟨selectionEvents request content, .ok (Line.join (select request.tag content))⟩ := by
  have hlog : Log.ofOctets request.logFile (Text.encode content) =
      .ok ⟨request.logFile, content⟩ := ofOctets_eq_ok rfl
  have hsource : invocation.source request.logFile =
      ⟨[.read request.logFile (Text.encode content).length], .ok ⟨request.logFile, content⟩⟩ := by
    rw [source, hfile, Log.receive, Log.events, hlog]
  rw [Source.selectJoined_of_ok hsource]
  rfl

end Invocation

end LogSieve
