import LogSieve.Invocation

/-!
# The program

The outer layer: it collects what an invocation needs, and carries out the outcome.  Which of the two
tools it is depends on the name of the executable.
-/

namespace LogSieve

/-- The number of a system error.  Some operations report it with its sign turned round. -/
def errorNumber (code : UInt32) : Nat :=
  min code.toNat (-code).toNat

def faultOfError (error : IO.Error) : Fault :=
  match error with
  | .alreadyExists _ code _ | .otherError code _ | .resourceBusy code _ | .resourceVanished code _
  | .unsupportedOperation code _ | .hardwareFault code _ | .unsatisfiedConstraints code _
  | .illegalOperation code _ | .protocolError code _ | .timeExpired code _
  | .interrupted _ code _ | .noFileOrDirectory _ code _ | .invalidArgument _ code _
  | .permissionDenied _ code _ | .resourceExhausted _ code _ | .inappropriateType _ code _
  | .noSuchThing _ code _ => Fault.ofCode (errorNumber code)
  | .unexpectedEof => Fault.ofKind .unexpectedEnd
  | .userError text => ⟨.other, text.toList⟩

/-- What the system answers when the octets at a path are read.  A path that is no text cannot be
passed on to the system from here. -/
def readOctets (path : Octets) : IO (Except Fault Octets) := do
  match Utf8.decode? path with
  | none => return .error (Fault.ofKind .unsupported)
  | some text =>
    match ← (IO.FS.readBinFile (String.ofList text)).toBaseIO with
    | .ok content => return .ok content.toList
    | .error error => return .error (faultOfError error)

/-- Writes octets to the standard output and answers in which state the stream turned out to be. -/
def printOctets (octets : Octets) : IO Output := do
  let stdout ← IO.getStdout
  let printing : IO Unit := do
    stdout.write (ByteArray.mk octets.toArray)
    stdout.flush
  match ← printing.toBaseIO with
  | .ok () => return .working
  | .error error => return .failing (faultOfError error)

def toolOfProgram (program : Octets) : Tool :=
  if Path.name? program = some (Text.encode Tool.fixedTag.name.toList) then .fixedTag else .chosenTag

/-- Runs an invocation and prints its outcome.  If nothing can be printed, the outcome is that of a
run whose output fails. -/
def perform (invocation : Invocation) : IO Outcome := do
  let outcome := invocation.run
  if outcome.printed.isEmpty then return outcome
  let output ← printOctets outcome.printed
  return { invocation with output }.run

end LogSieve

open LogSieve in
/-- Filters a log as the arguments say. -/
def main (args : List String) : IO UInt32 := do
  let program := (← IO.appPath).toString.toUTF8.toList
  let invocation : Invocation := {
    tool := toolOfProgram program
    program := some program
    arguments := args.map fun argument => argument.toUTF8.toList
    files := fun _ => .error Fault.notFound
    setting := (← IO.getEnv "RUST_LOG").map fun text => text.toUTF8.toList }
  let answer ← match invocation.logFile? with
    | some path => readOctets path
    | none => pure (.error Fault.notFound)
  let outcome ← perform { invocation with files := fun _ => answer }
  (← IO.getStderr).putStr (String.ofList outcome.diagnostics)
  return UInt32.ofNat outcome.ending.code
