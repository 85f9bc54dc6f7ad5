import LogSieve.Text.Basic

/-!
# Faults of the operating system

Reading and writing can fail for reasons outside the library.  Such a *fault* has a kind, which
decides how the library goes on, and a text, which is only shown.

* `Fault.ofCode` — the fault that a numbered error of the system stands for, from `systemFaults`.
* `Fault.ofKind` — a fault that has nothing to say beyond its kind.
-/

namespace LogSieve

/-- The kinds of failed operations.  Those that are none of the others are `uncategorized`, and `other`
is for failures that do not come from the system. -/
inductive FaultKind where
  | notFound
  | permissionDenied
  | connectionRefused
  | connectionReset
  | hostUnreachable
  | networkUnreachable
  | connectionAborted
  | notConnected
  | addressInUse
  | addressNotAvailable
  | networkDown
  | brokenPipe
  | alreadyExists
  | wouldBlock
  | notADirectory
  | isADirectory
  | directoryNotEmpty
  | readOnlyFileSystem
  | fileSystemLoop
  | staleNetworkFileHandle
  | invalidInput
  | invalidData
  | timedOut
  | writeZero
  | storageFull
  | notSeekable
  | quotaExceeded
  | fileTooLarge
  | resourceBusy
  | executableFileBusy
  | deadlock
  | crossesDevices
  | tooManyLinks
  | invalidFileName
  | argumentListTooLong
  | tooManyOpenFiles
  | interrupted
  | unsupported
  | unexpectedEnd
  | outOfMemory
  | inProgress
  | inputOutput
  | other
  | uncategorized
  deriving DecidableEq, Repr

def FaultKind.description : FaultKind → String
  | .notFound => "entity not found"
  | .permissionDenied => "permission denied"
  | .connectionRefused => "connection refused"
  | .connectionReset => "connection reset"
  | .hostUnreachable => "host unreachable"
  | .networkUnreachable => "network unreachable"
  | .connectionAborted => "connection aborted"
  | .notConnected => "not connected"
  | .addressInUse => "address in use"
  | .addressNotAvailable => "address not available"
  | .networkDown => "network down"
  | .brokenPipe => "broken pipe"
  | .alreadyExists => "entity already exists"
  | .wouldBlock => "operation would block"
  | .notADirectory => "not a directory"
  | .isADirectory => "is a directory"
  | .directoryNotEmpty => "directory not empty"
  | .readOnlyFileSystem => "read-only filesystem or storage medium"
  | .fileSystemLoop => "filesystem loop or indirection limit (e.g. symlink loop)"
  | .staleNetworkFileHandle => "stale network file handle"
  | .invalidInput => "invalid input parameter"
  | .invalidData => "invalid data"
  | .timedOut => "timed out"
  | .writeZero => "write zero"
  | .storageFull => "no storage space"
  | .notSeekable => "seek on unseekable file"
  | .quotaExceeded => "quota exceeded"
  | .fileTooLarge => "file too large"
  | .resourceBusy => "resource busy"
  | .executableFileBusy => "executable file busy"
  | .deadlock => "deadlock"
  | .crossesDevices => "cross-device link or rename"
  | .tooManyLinks => "too many links"
  | .invalidFileName => "invalid filename"
  | .argumentListTooLong => "argument list too long"
  | .tooManyOpenFiles => "too many open files"
  | .interrupted => "operation interrupted"
  | .unsupported => "unsupported"
  | .unexpectedEnd => "unexpected end of file"
  | .outOfMemory => "out of memory"
  | .inProgress => "in progress"
  | .inputOutput => "input/output error"
  | .other => "other error"
  | .uncategorized => "uncategorized error"

/-- A failed operation of the operating system. -/
structure Fault where
  kind : FaultKind
  text : Text
  deriving DecidableEq, Repr

structure SystemFault where
  code : Nat
  kind : FaultKind
  description : String

/-- The numbered errors that have a kind, and those without one that reading a file or writing to a
stream can meet. -/
def systemFaults : List SystemFault := [
  ⟨1, .permissionDenied, "Operation not permitted"⟩,
  ⟨2, .notFound, "No such file or directory"⟩,
  ⟨4, .interrupted, "Interrupted system call"⟩,
  ⟨5, .inputOutput, "Input/output error"⟩,
  ⟨7, .argumentListTooLong, "Argument list too long"⟩,
  ⟨9, .uncategorized, "Bad file descriptor"⟩,
  ⟨11, .wouldBlock, "Resource temporarily unavailable"⟩,
  ⟨12, .outOfMemory, "Cannot allocate memory"⟩,
  ⟨13, .permissionDenied, "Permission denied"⟩,
  ⟨16, .resourceBusy, "Device or resource busy"⟩,
  ⟨17, .alreadyExists, "File exists"⟩,
  ⟨18, .crossesDevices, "Invalid cross-device link"⟩,
  ⟨20, .notADirectory, "Not a directory"⟩,
  ⟨21, .isADirectory, "Is a directory"⟩,
  ⟨22, .invalidInput, "Invalid argument"⟩,
  ⟨24, .tooManyOpenFiles, "Too many open files"⟩,
  ⟨26, .executableFileBusy, "Text file busy"⟩,
  ⟨27, .fileTooLarge, "File too large"⟩,
  ⟨28, .storageFull, "No space left on device"⟩,
  ⟨29, .notSeekable, "Illegal seek"⟩,
  ⟨30, .readOnlyFileSystem, "Read-only file system"⟩,
  ⟨31, .tooManyLinks, "Too many links"⟩,
  ⟨32, .brokenPipe, "Broken pipe"⟩,
  ⟨35, .deadlock, "Resource deadlock avoided"⟩,
  ⟨36, .invalidFileName, "File name too long"⟩,
  ⟨38, .unsupported, "Function not implemented"⟩,
  ⟨39, .directoryNotEmpty, "Directory not empty"⟩,
  ⟨40, .fileSystemLoop, "Too many levels of symbolic links"⟩,
  ⟨95, .unsupported, "Operation not supported"⟩,
  ⟨98, .addressInUse, "Address already in use"⟩,
  ⟨99, .addressNotAvailable, "Cannot assign requested address"⟩,
  ⟨100, .networkDown, "Network is down"⟩,
  ⟨101, .networkUnreachable, "Network is unreachable"⟩,
  ⟨103, .connectionAborted, "Software caused connection abort"⟩,
  ⟨104, .connectionReset, "Connection reset by peer"⟩,
  ⟨107, .notConnected, "Transport endpoint is not connected"⟩,
  ⟨110, .timedOut, "Connection timed out"⟩,
  ⟨111, .connectionRefused, "Connection refused"⟩,
  ⟨113, .hostUnreachable, "No route to host"⟩,
  ⟨115, .inProgress, "Operation now in progress"⟩,
  ⟨116, .staleNetworkFileHandle, "Stale file handle"⟩,
  ⟨122, .quotaExceeded, "Disk quota exceeded"⟩]

namespace Fault

/-- The fault a numbered error stands for.  Its text ends with the number. -/
def ofCode (code : Nat) : Fault :=
  let numbered (description : Text) : Text :=
    description ++ " (os error ".toList ++ Text.ofNat code ++ ")".toList
  match systemFaults.find? (·.code = code) with
  | some known => ⟨known.kind, numbered known.description.toList⟩
  | none => ⟨.uncategorized, numbered ("Unknown error ".toList ++ Text.ofNat code)⟩

/-- A fault of which only the kind is known. -/
def ofKind (kind : FaultKind) : Fault :=
  ⟨kind, kind.description.toList⟩

/-! ## Faults that the library itself meets -/

def notFound : Fault :=
  ofCode 2

def notADirectory : Fault :=
  ofCode 20

def isADirectory : Fault :=
  ofCode 21

def noSpace : Fault :=
  ofCode 28

def brokenPipe : Fault :=
  ofCode 32

def nameTooLong : Fault :=
  ofCode 36

end Fault

end LogSieve
