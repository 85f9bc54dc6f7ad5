import LogSieve.Sink
import Mathlib.Data.List.Basic
import Mathlib.Tactic.Common

/-!
# What a sink receives

A sink is written to in a loop that it may slow down, interrupt and end.  This file says what comes
out of the loop: the octets that there is room for, in order and each of them once, and a fault if
that is not all of them.  How many octets a call takes and how often it is interrupted do not show.

* `Sink.Patient` — a sink for which the loop makes progress.
* `Sink.filled` — the sink after the loop; `filled_append` says that it is filled piece by piece.
* `Sink.write_eq` — one call: it is stopped at the limit or takes some octets off the front.
* **`Sink.writeAll_eq`** — the loop.
* `Sink.writeAll_append` — two loops in a row are one.  The limit may lie in either of them or just
  in between, and from here on nobody has to know.
* **`Sink.print_closed_form`** — what printing a text leaves in a sink, and how it ends.
-/

namespace LogSieve

namespace Sink

variable {sink after : Sink} {octets front : Octets} {fault : Fault} {n : Nat}

/-! ## Room -/

/-- A sink that takes something in each call that does not end the writing. -/
structure Patient (sink : Sink) : Prop where
  /-- A call may take few octets, but it has to take some. -/
  chunk : sink.chunk ≠ some 0
  /-- The fault at the limit is not one after which the call is made again. -/
  limitFault : ∀ fault, sink.limitFault = some fault → fault.kind ≠ .interrupted

/-- Whether there is room for octets. -/
def fits (sink : Sink) (octets : Octets) : Bool :=
  sink.room.all fun n => octets.length ≤ n

/-- The fault with which writing ends at the limit. -/
def limitStop (sink : Sink) : Fault :=
  sink.limitFault.getD nothingTaken

/-- The sink after octets have been offered to it until it took no more.  The interruptions have run
out, unless there was nothing to offer. -/
def filled (sink : Sink) (octets : Octets) : Sink :=
  { sink with
    received := sink.received ++ takeWithin sink.room octets
    interrupts := if octets.isEmpty then sink.interrupts else 0 }

lemma takeWithin_isPrefix {α : Type} (bound : Option Nat) (list : List α) :
    takeWithin bound list <+: list := by
  cases bound with
  | none => exact List.prefix_rfl
  | some n => exact List.take_prefix n list

lemma length_takeWithin {α : Type} (bound : Option Nat) (list : List α) :
    (takeWithin bound list).length = bound.elim list.length fun n => min n list.length := by
  cases bound with
  | none => rfl
  | some n => exact List.length_take

lemma takeWithin_ne_nil {α : Type} {bound : Option Nat} {list : List α} (hbound : bound ≠ some 0)
    (hlist : list ≠ []) : takeWithin bound list ≠ [] := by
  cases bound with
  | none => exact hlist
  | some n =>
      have hn : n ≠ 0 := fun hn => hbound (by rw [hn])
      simp [takeWithin, hn, hlist]

lemma fits_iff : sink.fits octets = true ↔ ∀ n, sink.room = some n → octets.length ≤ n := by
  cases h : sink.room <;> simp [fits, h]

lemma fits_eq_false_iff :
    sink.fits octets = false ↔ ∃ n, sink.room = some n ∧ n < octets.length := by
  cases h : sink.room <;> simp [fits, h]

@[simp] lemma fits_nil (sink : Sink) : sink.fits [] = true := by
  simp [fits_iff]

lemma takeWithin_room_of_fits (h : sink.fits octets = true) :
    takeWithin sink.room octets = octets := by
  rw [fits_iff] at h
  cases hroom : sink.room with
  | none => rfl
  | some n => exact List.take_of_length_le (h n hroom)

@[simp] lemma filled_nil (sink : Sink) : sink.filled [] = sink := by
  simp [filled, takeWithin_room_of_fits]

lemma Patient.filled (h : sink.Patient) (octets : Octets) : (sink.filled octets).Patient :=
  ⟨h.chunk, h.limitFault⟩

@[simp] lemma limitStop_filled (sink : Sink) (octets : Octets) :
    (sink.filled octets).limitStop = sink.limitStop := rfl

/-- What has been taken is missing from the room. -/
lemma room_filled (h : sink.fits front = true) :
    (sink.filled front).room = sink.room.map (· - front.length) := by
  have hsize : (sink.received ++ front).size = sink.received.size + front.length := by
    simp [← Array.length_toList]
  simp only [room, filled, Option.map_map]
  rw [← room, takeWithin_room_of_fits h, hsize]
  congr 1
  funext limit
  exact (Nat.sub_sub _ _ _).symm

lemma fits_append (h : sink.fits front = true) (octets : Octets) :
    (sink.filled front).fits octets = sink.fits (front ++ octets) := by
  rw [fits, room_filled h, fits]
  rw [fits_iff] at h
  cases hroom : sink.room with
  | none => rfl
  | some n =>
      have hfront := h n hroom
      simp only [Option.map_some, Option.all_some, List.length_append, decide_eq_decide]
      omega

/-- A sink is filled piece by piece, as long as there is room. -/
lemma filled_append (h : sink.fits front = true) (octets : Octets) :
    (sink.filled front).filled octets = sink.filled (front ++ octets) := by
  have htaken : front ++ takeWithin (sink.filled front).room octets =
      takeWithin sink.room (front ++ octets) := by
    rw [room_filled h]
    rw [fits_iff] at h
    cases hroom : sink.room with
    | none => rfl
    | some n =>
        simp only [takeWithin, Option.map_some]
        rw [List.take_append, List.take_of_length_le (h n hroom)]
  have hreceived : (sink.filled front).received ++ takeWithin (sink.filled front).room octets =
      sink.received ++ takeWithin sink.room (front ++ octets) := by
    apply Array.ext'
    rw [← htaken, filled, takeWithin_room_of_fits h]
    simp
  have hinterrupts : (if octets.isEmpty then (sink.filled front).interrupts else 0) =
      if (front ++ octets).isEmpty then sink.interrupts else 0 := by
    cases front <;> cases octets <;> rfl
  show { sink with
      received := (sink.filled front).received ++ takeWithin (sink.filled front).room octets
      interrupts := if octets.isEmpty then (sink.filled front).interrupts else 0 } = _
  rw [hreceived, hinterrupts]
  rfl

/-- Where the room has run out, it does not matter what else is offered. -/
lemma filled_append_of_not_fits (h : sink.fits front = false) (octets : Octets) :
    sink.filled (front ++ octets) = sink.filled front ∧ sink.fits (front ++ octets) = false := by
  obtain ⟨n, hroom, hn⟩ := fits_eq_false_iff.1 h
  have hne : front ≠ [] := List.ne_nil_of_length_pos (by omega)
  have htaken : takeWithin sink.room (front ++ octets) = takeWithin sink.room front := by
    rw [hroom]
    exact List.take_append_of_le_length (by omega)
  constructor
  · rw [filled, filled, htaken]
    simp [hne]
  · rw [fits_eq_false_iff]
    refine ⟨n, hroom, ?_⟩
    rw [List.length_append]
    omega

/-! ## One call -/

lemma write_of_interrupts (h : 0 < sink.interrupts) (octets : Octets) :
    sink.write octets =
      ({ sink with interrupts := sink.interrupts - 1 }, .error (.ofKind .interrupted)) := by
  rw [write, if_pos h]

/-- What one call takes: some octets off the front, at least one of them, for which there is room. -/
lemma exists_takeWithin_eq_take (hchunk : sink.chunk ≠ some 0) (hroom : sink.room ≠ some 0)
    (hne : octets ≠ []) : ∃ n, 0 < n ∧ n ≤ octets.length ∧ sink.fits (octets.take n) = true ∧
      takeWithin sink.room (takeWithin sink.chunk octets) = octets.take n := by
  set taken := takeWithin sink.room (takeWithin sink.chunk octets) with htaken
  have hprefix : taken <+: octets := (takeWithin_isPrefix _ _).trans (takeWithin_isPrefix _ _)
  have heq : taken = octets.take taken.length := List.prefix_iff_eq_take.1 hprefix
  have hsome : taken ≠ [] := takeWithin_ne_nil hroom (takeWithin_ne_nil hchunk hne)
  refine ⟨taken.length, List.length_pos_iff.2 hsome, hprefix.length_le, ?_, heq⟩
  rw [← heq, fits_iff]
  intro m hm
  rw [htaken, length_takeWithin, hm]
  exact Nat.min_le_left _ _

/-- **One call without an interruption.**  Where there is no room left, the sink stays as it is and
the call says so.  Elsewhere the call fills the sink with some octets off the front. -/
theorem write_eq (hsink : sink.Patient) (hcalm : sink.interrupts = 0) (hne : octets ≠ []) :
    (sink.room = some 0 ∧
      sink.write octets = (sink, (sink.limitFault.map Except.error).getD (.ok 0))) ∨
    (∃ n, 0 < n ∧ n ≤ octets.length ∧ sink.fits (octets.take n) = true ∧
      sink.write octets = (sink.filled (octets.take n), .ok n)) := by
  have hfirst : ¬ sink.interrupts > 0 := by omega
  have hsome : octets.isEmpty = false := by simpa using hne
  by_cases hroom : sink.room = some 0
  · left
    refine ⟨hroom, ?_⟩
    rw [write, if_neg hfirst, hsome, hroom]
    cases sink.limitFault <;> rfl
  · right
    obtain ⟨n, hn, hle, hfits, htaken⟩ := exists_takeWithin_eq_take hsink.chunk hroom hne
    refine ⟨n, hn, hle, hfits, ?_⟩
    have hroom' : (sink.room == some 0) = false := by simpa using hroom
    have hlength : (octets.take n).length = n := by simp [hle]
    have hfilled : sink.filled (octets.take n) =
        { sink with received := sink.received ++ octets.take n } := by
      rw [filled, takeWithin_room_of_fits hfits, hcalm, ite_self, ← hcalm]
    rw [write, if_neg hfirst, hroom', Bool.and_false, if_neg (by simp), htaken, hfilled]
    exact Prod.ext rfl (congrArg Except.ok hlength)

/-! ## The loop

Each kind of call has its equation, so that the recursion is opened here only.
-/

@[simp] lemma writeAll_nil (sink : Sink) : sink.writeAll [] = (sink, .ok ()) := by
  rw [writeAll]
  rfl

lemma writeAll_of_taken (hne : octets ≠ []) (hn : 0 < n)
    (h : sink.write octets = (after, .ok n)) :
    sink.writeAll octets = after.writeAll (octets.drop n) := by
  obtain ⟨n, rfl⟩ : ∃ m, n = m + 1 := ⟨n - 1, by omega⟩
  rw [writeAll, if_neg (by simpa using hne)]
  split <;> next heq => simp_all

lemma writeAll_of_nothing_taken (hne : octets ≠ []) (h : sink.write octets = (after, .ok 0)) :
    sink.writeAll octets = (after, .error nothingTaken) := by
  rw [writeAll, if_neg (by simpa using hne)]
  split <;> next heq => simp_all

lemma writeAll_of_fault (hne : octets ≠ []) (hkind : fault.kind ≠ .interrupted)
    (h : sink.write octets = (after, .error fault)) :
    sink.writeAll octets = (after, .error fault) := by
  rw [writeAll, if_neg (by simpa using hne)]
  split <;> next heq => simp_all

lemma writeAll_of_interrupts (hne : octets ≠ []) (h : 0 < sink.interrupts) :
    sink.writeAll octets = { sink with interrupts := sink.interrupts - 1 }.writeAll octets := by
  have hwrite := write_of_interrupts h octets
  rw [writeAll, if_neg (by simpa using hne)]
  split
  · next heq => rw [hwrite] at heq; cases heq
  · next heq => rw [hwrite] at heq; cases heq
  · next heq =>
      rw [hwrite] at heq
      cases heq
      exact dif_pos ⟨rfl, Nat.sub_lt h Nat.one_pos⟩

/-- Interruptions only delay. -/
lemma writeAll_calm (hne : octets ≠ []) :
    sink.writeAll octets = { sink with interrupts := 0 }.writeAll octets := by
  induction hn : sink.interrupts generalizing sink with
  | zero => rw [← hn]
  | succ n ih => rw [writeAll_of_interrupts hne (by omega), ih (by simp [hn])]

lemma writeAll_eq_of_calm (hsink : sink.Patient) (hcalm : sink.interrupts = 0) (octets : Octets) :
    sink.writeAll octets =
      (sink.filled octets, if sink.fits octets then .ok () else .error sink.limitStop) := by
  induction hlen : octets.length using Nat.strongRecOn generalizing sink octets with
  | _ len ih =>
      by_cases hne : octets = []
      · subst hne
        simp
      · rcases write_eq hsink hcalm hne with ⟨hroom, hwrite⟩ | ⟨n, hn, hle, hfits, hwrite⟩
        · have hfull : sink.fits octets = false :=
            fits_eq_false_iff.2 ⟨0, hroom, List.length_pos_iff.2 hne⟩
          have hfilled : sink.filled octets = sink := by
            rw [filled, hroom, takeWithin, List.take_zero, Array.appendList_nil, hcalm, ite_self,
              ← hcalm]
          rw [hfull, hfilled, if_neg Bool.false_ne_true, limitStop]
          cases hfault : sink.limitFault with
          | none =>
              rw [hfault] at hwrite
              exact writeAll_of_nothing_taken hne hwrite
          | some fault =>
              rw [hfault] at hwrite
              exact writeAll_of_fault hne (hsink.limitFault fault hfault) hwrite
        · have hdrop : (octets.drop n).length < len := by
            rw [List.length_drop]
            omega
          have hcalm' : (sink.filled (octets.take n)).interrupts = 0 := by
            rw [filled, hcalm, ite_self]
          rw [writeAll_of_taken hne hn hwrite, ih _ hdrop (hsink.filled _) hcalm' _ rfl,
            filled_append hfits, fits_append hfits, List.take_append_drop, limitStop_filled]

/-- **The loop fills the sink.**  It ends well if there is room for all octets, and otherwise with
the fault of the limit. -/
theorem writeAll_eq (hsink : sink.Patient) (octets : Octets) :
    sink.writeAll octets =
      (sink.filled octets, if sink.fits octets then .ok () else .error sink.limitStop) := by
  by_cases hne : octets = []
  · subst hne
    simp
  · have hcalm : ({ sink with interrupts := 0 } : Sink).Patient := ⟨hsink.chunk, hsink.limitFault⟩
    have hfilled : ({ sink with interrupts := 0 } : Sink).filled octets = sink.filled octets := by
      simp [filled, hne, room]
    rw [writeAll_calm hne, writeAll_eq_of_calm hcalm rfl, hfilled]
    rfl

/-- Two loops in a row are one. -/
theorem writeAll_append (hsink : sink.Patient) (front octets : Octets) :
    sink.writeAll (front ++ octets) =
      match sink.writeAll front with
      | (after, .error fault) => (after, .error fault)
      | (after, .ok ()) => after.writeAll octets := by
  rw [writeAll_eq hsink, writeAll_eq hsink front]
  cases hfits : sink.fits front with
  | true =>
      simp only [if_true]
      rw [writeAll_eq (hsink.filled front), filled_append hfits, fits_append hfits, limitStop_filled]
  | false =>
      obtain ⟨hfilled, hfits'⟩ := filled_append_of_not_fits hfits octets
      simp [hfilled, hfits']

/-! ## Printing -/

/-- Writing a line is one loop over the text and its line feed, and a flush if all went through. -/
theorem writeLine_eq (hsink : sink.Patient) (text : Text) :
    sink.writeLine text =
      if sink.fits (Text.encode (text ++ ['\n'])) then
        (sink.filled (Text.encode (text ++ ['\n']))).flush
      else (sink.filled (Text.encode (text ++ ['\n'])), .error sink.limitStop) := by
  have hloop : sink.writeLine text =
      match sink.writeAll (Text.encode (text ++ ['\n'])) with
      | (after, .error fault) => (after, .error fault)
      | (after, .ok ()) => after.flush := by
    rw [Text.encode_append, writeAll_append hsink, writeLine]
    rcases sink.writeAll (Text.encode text) with ⟨after, fault | ⟨⟩⟩ <;> rfl
  rw [hloop, writeAll_eq hsink]
  cases sink.fits (Text.encode (text ++ ['\n'])) <;> rfl

/-- Where there is room for the line, only the flush can fail. -/
lemma print_of_fits (hsink : sink.Patient) {text : Text}
    (h : sink.fits (Text.encode (text ++ ['\n'])) = true) :
    sink.print text = ((sink.filled (Text.encode (text ++ ['\n']))).flush.1,
      sink.flushFault.elim (.ok ()) fun fault =>
        if fault.kind = .brokenPipe then .ok () else .error (.unwritable fault)) := by
  rw [print, writeLine_eq hsink, if_pos h]
  cases hflush : sink.flushFault <;> simp [flush, filled, hflush]

/-- Where there is none, the fault of the limit decides. -/
lemma print_of_not_fits (hsink : sink.Patient) {text : Text}
    (h : sink.fits (Text.encode (text ++ ['\n'])) = false) :
    sink.print text = (sink.filled (Text.encode (text ++ ['\n'])),
      if sink.limitStop.kind = .brokenPipe then .ok ()
      else .error (.unwritable sink.limitStop)) := by
  rw [print, writeLine_eq hsink, h, if_neg Bool.false_ne_true]

/-- **Printing in closed form.**  The sink starts empty, takes at least one octet in a call, and is
not interrupted where its limit is reached.  If the limit leaves room for the text and a line feed,
the sink receives exactly these, is flushed once, and only a fault of the flush other than that of a
reader gone away is a failure.  Otherwise it receives as many octets of them as the limit says, is
not flushed, and the fault at the limit decides.  Neither the size of the pieces nor the number of
interruptions occurs in the answer. -/
theorem print_closed_form (text : Text) (chunk limit : Option Nat) (limitFault : Option Fault)
    (interrupts : Nat) (flushFault : Option Fault) (hchunk : chunk ≠ some 0)
    (hlimitFault : ∀ fault, limitFault = some fault → fault.kind ≠ .interrupted) :
    let whole := Text.encode text ++ [0x0A]
    let outcome := Sink.print { chunk, limit, limitFault, interrupts, flushFault } text
    ((∀ n, limit = some n → whole.length ≤ n) →
      outcome.1.received.toList = whole ∧ outcome.1.flushes = 1 ∧
      (flushFault = none → outcome.2 = .ok ()) ∧
      (∀ fault, flushFault = some fault →
        outcome.2 = if fault.kind = .brokenPipe then .ok () else .error (.unwritable fault))) ∧
    (∀ n, limit = some n → n < whole.length →
      outcome.1.received.toList = whole.take n ∧ outcome.1.flushes = 0 ∧
      (limitFault = none →
        ∃ fault, fault.kind = .writeZero ∧ outcome.2 = .error (.unwritable fault)) ∧
      (∀ fault, limitFault = some fault →
        outcome.2 = if fault.kind = .brokenPipe then .ok () else .error (.unwritable fault))) := by
  intro whole outcome
  set sink : Sink := { chunk, limit, limitFault, interrupts, flushFault } with hdef
  have hsink : sink.Patient := ⟨hchunk, hlimitFault⟩
  have hwhole : whole = Text.encode (text ++ ['\n']) := (Text.encode_append text ['\n']).symm
  have hroom : sink.room = limit := by
    simp [hdef, room]
  constructor
  · intro hlimit
    have hfits : sink.fits whole = true := fits_iff.2 (hroom ▸ hlimit)
    have hreceived : (sink.filled whole).received.toList = whole := by
      rw [filled, takeWithin_room_of_fits hfits]
      simp [hdef]
    have houtcome : outcome = _ := print_of_fits hsink (hwhole ▸ hfits)
    rw [houtcome, ← hwhole]
    refine ⟨hreceived, rfl, fun hflush => ?_, fun fault hflush => ?_⟩
    · simp [hdef, hflush]
    · simp [hdef, hflush]
  · intro n hlimit hn
    have hfits : sink.fits whole = false := fits_eq_false_iff.2 ⟨n, hroom ▸ hlimit, hn⟩
    have hreceived : (sink.filled whole).received.toList = whole.take n := by
      rw [filled, hroom, hlimit]
      simp [hdef, takeWithin]
    have houtcome : outcome = _ := print_of_not_fits hsink (hwhole ▸ hfits)
    rw [houtcome, ← hwhole]
    refine ⟨hreceived, rfl, fun hfault => ⟨nothingTaken, rfl, ?_⟩, fun fault hfault => ?_⟩
    · simp [hdef, limitStop, hfault, nothingTaken]
    · simp [hdef, limitStop, hfault]

/-- The limit lies between the text and its line feed, and inside the second piece of two octets. -/
theorem print_closed_form_full_before_line_feed :
    let fault := Fault.ofKind .storageFull
    let outcome := Sink.print
      { chunk := some 2
        limit := some 3
        limitFault := some fault
        interrupts := 1
        flushFault := some (.ofKind .interrupted) } "a\u00E9".toList
    (some 2 : Option Nat) ≠ some 0 ∧ fault.kind ≠ .interrupted ∧
      3 < (Text.encode "a\u00E9".toList ++ [0x0A]).length ∧
      outcome.1.received.toList = [0x61, 0xC3, 0xA9] ∧ outcome.1.flushes = 0 ∧
      outcome.2 = .error (.unwritable fault) := by
  intro fault outcome
  have hkind : ∀ other, some fault = some other → other.kind ≠ .interrupted := by
    rintro other ⟨⟩
    decide
  have hlength : 3 < (Text.encode "a\u00E9".toList ++ [0x0A]).length := by decide
  obtain ⟨hreceived, hflushes, -, hresult⟩ :=
    (print_closed_form "a\u00E9".toList (some 2) (some 3) (some fault) 1
      (some (.ofKind .interrupted)) (by decide) hkind).2 3 rfl hlength
  exact ⟨by decide, hkind fault rfl, hlength, hreceived, hflushes, hresult fault rfl⟩

end Sink

end LogSieve
