import LogSieve.CommandLine.Standard
import LogSieve.Journal.Verbosity
import LogSieve.Log
import LogSieve.Sink

/-!
# A run from beginning to end

An invocation is everything a tool gets from outside: its arguments, what the system answers when a
file is read, the setting of its journal, and the stream it prints to.  The reader of its command line
and the journal are from outside as well, and so is what becomes of a run that is given up.  An outcome
is everything that a run gives back.

* `Invocation.account` — the work: the selected lines joined, or the failure.
* `Invocation.run` — the outcome.  What a command line asks for instead of a run, and a usage line,
  go to the output; refusals and failures are diagnostics, after the events that are shown.
* `Ending.crashed` — the way not to end with a code of the tool's own, and `Crash`, the two reasons for
  it: a journal that gives up over its setting, and a usage line that cannot be printed.
-/

namespace LogSieve

/-- The state of the stream that a tool prints to. -/
inductive Output where
  | working
  /-- Whatever is written meets a fault. -/
  | failing (fault : Fault)
  deriving DecidableEq, Repr

namespace Output

/-- A stream whose device has no room left. -/
def full : Output :=
  .failing Fault.noSpace

/-- A stream whose reader has gone away. -/
def closed : Output :=
  .failing Fault.brokenPipe

def sink : Output → Sink
  | .working => {}
  | .failing fault => { limit := some 0, limitFault := some fault }

end Output

/-- Why a run is given up in the middle. -/
inductive Crash where
  /-- The journal gave up over its setting. -/
  | setting
  /-- The usage line met a fault of the output. -/
  | usageLine (fault : Fault)
  deriving DecidableEq, Repr

inductive Ending where
  | exited (code : Nat)
  /-- The run was given up in the middle. -/
  | crashed
  deriving DecidableEq, Repr

def Ending.code : Ending → Nat
  | .exited code => code
  | .crashed => 101

structure Outcome where
  ending : Ending
  printed : Octets := []
  diagnostics : Text := []
  deriving DecidableEq, Repr

structure Invocation where
  tool : Tool
  /-- The octets by which the tool was called, if they are known. -/
  program : Option Octets := none
  arguments : List Octets
  /-- What the system answers when the octets at a path are read. -/
  files : Octets → Except Fault Octets
  /-- The setting of the journal in the environment. -/
  setting : Option Octets := none
  output : Output := .working
  reader : CommandReader := .standard
  journal : Journal := .standard
  /-- What is said when a run is given up.  It is not the tool that says it. -/
  lament : Crash → Text := fun _ => "the run was given up\n".toList

namespace Invocation

/-- What the reader makes of the command line. -/
def reading (invocation : Invocation) : Except Refusal Arguments :=
  invocation.reader.parse invocation.tool invocation.arguments

/-- The log file that a run will read, if one is asked for. -/
def logFile? (invocation : Invocation) : Option Octets :=
  match invocation.reading with
  | .error _ => none
  | .ok arguments => ((arguments.request invocation.tool).toOption).map Request.logFile

def source (invocation : Invocation) : Source := fun path =>
  Log.receive path (invocation.files path)

/-- The work that arguments ask for. -/
def account (invocation : Invocation) (arguments : Arguments) : Account Text :=
  match arguments.request invocation.tool with
  | .error failure => .failed failure
  | .ok request => invocation.source.selectJoined request.logFile request.tag

/-- The events that are shown, one on a line. -/
def shown (invocation : Invocation) (shows : Event → Bool) (events : List Event) : Text :=
  Line.close ((events.filter shows).map invocation.journal.line)

/-- What is said about a command line that leads to no run. -/
def answer (invocation : Invocation) (refusal : Refusal) : Text :=
  invocation.reader.message invocation.tool invocation.program refusal

/-- Says why a command line leads to no run.  It does not matter whether help and version can be
printed. -/
def refuse (invocation : Invocation) (refusal : Refusal) : Outcome :=
  let message := invocation.answer refusal
  if refusal.isRequested then
    { ending := .exited refusal.exitCode
      printed := (invocation.output.sink.writeAll (Text.encode message)).1.received.toList }
  else
    { ending := .exited refusal.exitCode, diagnostics := message }

/-- Reports a failure after what has been printed and said. -/
def report (invocation : Invocation) (sink : Sink) (said : Text) (failure : Failure) : Outcome :=
  if failure.isUsage then
    match sink.writeAll (Text.encode (failure.message ++ ['\n'])) with
    | (after, .ok ()) =>
      { ending := .exited failure.exitCode
        printed := after.received.toList
        diagnostics := said }
    | (after, .error fault) =>
      { ending := .crashed
        printed := after.received.toList
        diagnostics := said ++ invocation.lament (.usageLine fault) }
  else
    { ending := .exited failure.exitCode
      printed := sink.received.toList
      diagnostics := said ++ "Error: ".toList ++ failure.message ++ ['\n'] }

/-- Prints the outcome of the work, or reports why there is none. -/
def conclude (invocation : Invocation) (shows : Event → Bool) (account : Account Text) : Outcome :=
  let said := invocation.shown shows account.events
  let sink := invocation.output.sink
  match account.outcome with
  | .error failure => invocation.report sink said failure
  | .ok text =>
    match sink.print text with
    | (after, .ok ()) =>
      { ending := .exited 0, printed := after.received.toList, diagnostics := said }
    | (after, .error failure) => invocation.report after said failure

/-- The outcome of a run whose journal shows some events. -/
def runWith (invocation : Invocation) (shows : Event → Bool) : Outcome :=
  match invocation.reading with
  | .error refusal => invocation.refuse refusal
  | .ok arguments => invocation.conclude shows (invocation.account arguments)

/-- The outcome of a run.  The journal reads its setting before anything else is done. -/
def run (invocation : Invocation) : Outcome :=
  match invocation.journal.filter? invocation.setting with
  | none => { ending := .crashed, diagnostics := invocation.lament .setting }
  | some shows => invocation.runWith shows

end Invocation

end LogSieve
