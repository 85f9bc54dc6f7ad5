import LogSieve.Fault
import LogSieve.Text.Utf8

/-!
# Why a run fails

A run has four causes of failure, and each is worded in one place.

* `Failure.message` — the wording.
* `Failure.isUsage` — whether the failure is an answer to the user rather than a complaint: a usage
  line is printed as ordinary output, anything else as a diagnostic.
* `Failure.exitCode` — the code a run ends with.
-/

namespace LogSieve

/-- A cause of failure. -/
inductive Failure where
  /-- Arguments are missing; the line tells how the tool is called. -/
  | usage (line : Text)
  /-- The log at a path cannot be read. -/
  | unreadable (path : Octets) (fault : Fault)
  /-- The log at a path is not UTF-8; the first octet that is wrong stands on the given line. -/
  | illEncoded (path : Octets) (line : Nat)
  /-- The selected lines cannot be written. -/
  | unwritable (fault : Fault)
  deriving DecidableEq, Repr

namespace Failure

/-- The failure in words.  A path that is not text is shown as well as it can be. -/
def message : Failure → Text
  | .usage line => line
  | .unreadable path fault =>
    "Failed to read log file ".toList ++ Utf8.lossy path ++ ": ".toList ++ fault.text
  | .illEncoded path line =>
    "Log file ".toList ++ Utf8.lossy path ++ " is not valid UTF-8 (line ".toList ++
      Text.ofNat line ++ ")".toList
  | .unwritable fault => "Failed to write output: ".toList ++ fault.text

/-- Whether the failure is the usage line. -/
def isUsage : Failure → Bool
  | .usage _ => true
  | _ => false

/-- The fault of the system behind a failure, if there is one. -/
def fault? : Failure → Option Fault
  | .unreadable _ fault => some fault
  | .unwritable fault => some fault
  | _ => none

/-- The code a failed run ends with, whatever the cause. -/
def exitCode (_ : Failure) : Nat :=
  1

end Failure

end LogSieve
