import LogSieve.Failure

/-!
# Printing to a sink that may fail

A sink takes octets in pieces, as streams of the system do.  It may take fewer than it is given, be
interrupted, be full, or turn out to be gone when it is flushed.

* `Sink.write` — offers octets once; the answer is how many were taken.
* `Sink.writeAll` — offers octets until all are taken.  Interruptions are tried again; a sink that
  takes nothing ends the writing.
* `Sink.flush` — asks the sink to pass on what it holds, once.
* `Sink.print` — writes a text and a line feed and flushes.  A reader that has gone away is no
  failure: nobody is left to miss the rest.

`Sink.write_interrupts_le` and the termination argument of `writeAll` are two sides of one fact: each
call of `write` uses up an interruption or some of the octets, or it is the last one.
-/

namespace LogSieve

structure Sink where
  received : Array UInt8 := #[]
  /-- The most that one call takes, if there is such a bound. -/
  chunk : Option Nat := none
  /-- The most that all calls together take, if there is such a bound. -/
  limit : Option Nat := none
  /-- The fault of a call beyond the limit; without one the call takes nothing. -/
  limitFault : Option Fault := none
  /-- How many calls are still to be interrupted. -/
  interrupts : Nat := 0
  flushFault : Option Fault := none
  flushes : Nat := 0
  deriving Repr

namespace Sink

/-- The first elements of a list, as many as an optional bound allows. -/
def takeWithin {α : Type} : Option Nat → List α → List α
  | none, list => list
  | some bound, list => list.take bound

/-- How many octets the sink has room for, if that is bounded. -/
def room (sink : Sink) : Option Nat :=
  sink.limit.map (· - sink.received.size)

/-- Offers octets once.  Interruptions come first, then the limit, and otherwise the sink takes as
many octets as one call and the room that is left allow. -/
def write (sink : Sink) (octets : Octets) : Sink × Except Fault Nat :=
  if sink.interrupts > 0 then
    ({ sink with interrupts := sink.interrupts - 1 }, .error (.ofKind .interrupted))
  else if !octets.isEmpty && sink.room == some 0 then
    match sink.limitFault with
    | some fault => (sink, .error fault)
    | none => (sink, .ok 0)
  else
    let taken := takeWithin sink.room (takeWithin sink.chunk octets)
    ({ sink with received := sink.received ++ taken }, .ok taken.length)

/-- The fault of a sink that takes nothing of what it is offered. -/
def nothingTaken : Fault :=
  ⟨.writeZero, "failed to write whole buffer".toList⟩

theorem write_interrupts_le (sink : Sink) (octets : Octets) :
    (sink.write octets).1.interrupts ≤ sink.interrupts := by
  unfold write
  split
  · exact Nat.sub_le _ _
  · split
    · split <;> exact Nat.le_refl _
    · exact Nat.le_refl _

/-- Offers octets until the sink has taken all of them.  A call that is interrupted is made again,
as long as interruptions run out; any other fault ends the writing. -/
def writeAll (sink : Sink) (octets : Octets) : Sink × Except Fault Unit :=
  if octets.isEmpty then (sink, .ok ())
  else
    match _h : sink.write octets with
    | (after, .ok 0) => (after, .error nothingTaken)
    | (after, .ok (n + 1)) => after.writeAll (octets.drop (n + 1))
    | (after, .error fault) =>
      if _hfewer : fault.kind = .interrupted ∧ after.interrupts < sink.interrupts then
        after.writeAll octets
      else (after, .error fault)
termination_by sink.interrupts + octets.length
decreasing_by
  · have hle := write_interrupts_le sink octets
    rw [_h] at hle
    have hpos : 0 < octets.length := by
      cases octets with
      | nil => simp_all
      | cons => simp
    simp only [List.length_drop] at hle ⊢
    omega
  · omega

/-- Asks the sink to pass on what it holds. -/
def flush (sink : Sink) : Sink × Except Fault Unit :=
  ({ sink with flushes := sink.flushes + 1 },
    match sink.flushFault with
    | some fault => .error fault
    | none => .ok ())

/-- Writes a text and a line feed, then flushes if both went through. -/
def writeLine (sink : Sink) (text : Text) : Sink × Except Fault Unit :=
  match sink.writeAll (Text.encode text) with
  | (after, .error fault) => (after, .error fault)
  | (after, .ok ()) =>
    match after.writeAll (Text.encode ['\n']) with
    | (last, .error fault) => (last, .error fault)
    | (last, .ok ()) => last.flush

/-- Prints a text as one line.  It is not a failure if the reader of the sink has gone away. -/
def print (sink : Sink) (text : Text) : Sink × Except Failure Unit :=
  match sink.writeLine text with
  | (after, .ok ()) => (after, .ok ())
  | (after, .error fault) =>
    (after, if fault.kind = .brokenPipe then .ok () else .error (.unwritable fault))

end Sink

end LogSieve
