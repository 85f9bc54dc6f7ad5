import LogSieve.Proofs.Decoding
import LogSieve.Proofs.Line.Composition

/-!
# Logs that are still being written

A log may be read while a program goes on writing it.  What has been written stays and more octets come
behind it, so a reading and a later one have a common beginning, and the cut between what the first one
saw and what it did not may fall anywhere: between the two characters of a pair, or inside a character.

* `IsIllFormed.append` — an ill-formed part stays what it is, unless the octets break off in it.
* `CutOff` — the exception: a part that the octets to come may complete.
* `wellFormedHead_isPrefix_append` — in any case, the text in front of the first ill-formed part only
  gets longer, so the line that it ends on does not go back.
* **`refusal_stays_or_moves_on`** — the line that a refusal names, when the log is read again.
-/

namespace LogSieve

open Line Utf8

/-! ## Ill-formed parts and what comes behind them -/

namespace Utf8

variable {part rest : Octets}

/-- An ill-formed part that is only half a character.  The octets end with it. -/
def CutOff (part rest : Octets) : Prop :=
  rest = [] ∧ Begins part

/-- **More octets do not change an ill-formed part** that has been read to its end.  Where octets follow
it, the first of them has shown already that the part does not go on. -/
theorem IsIllFormed.append (h : IsIllFormed part rest) (hwhole : ¬ CutOff part rest) (more : Octets) :
    IsIllFormed part (rest ++ more) := by
  have hstops : Stops part (rest ++ more) := by
    cases rest with
    | nil => exact stops_of_not_begins fun hbegins => hwhole ⟨rfl, hbegins⟩
    | cons first rest => exact h.stops
  refine ⟨fun c hc => ?_, h.begins_or_single, hstops.length_le⟩
  have hpart := hstops.utf8EncodeChar_isPrefix hc
  exact h.not_character c (hpart.trans (List.prefix_append part rest))

/-- What stood in front of the first ill-formed part stands there still. -/
lemma wellFormedHead_isPrefix_append (octets more : Octets) :
    wellFormedHead octets <+: wellFormedHead (octets ++ more) :=
  isPrefix_wellFormedHead ((encode_wellFormedHead_isPrefix octets).trans (List.prefix_append _ _))

lemma decode?_illFormed {head : Text} (h : IsIllFormed part rest) :
    decode? (Text.encode head ++ (part ++ rest)) = none := by
  rw [decode?, segments_encode_append, segments_illFormed_append h, List.mapM_append]
  simp [Segment.character?]

end Utf8

/-! ## Refusals -/

/-- Whether octets are refused as a log, with the number of a line. -/
def RefusedAt (path octets : Octets) (n : Nat) : Prop :=
  (Log.receive path (.ok octets)).outcome = .error (.illEncoded path n)

variable {path octets part rest : Octets} {head : Text} {n : Nat}

lemma refusedAt_iff :
    RefusedAt path octets n ↔ decode? octets = none ∧ n = numberAfter (wellFormedHead octets) := by
  cases hdecode : decode? octets with
  | some text => simp [RefusedAt, Log.receive, Log.ofOctets, hdecode]
  | none => simp [RefusedAt, Log.receive, Log.ofOctets, hdecode, validHead_eq, eq_comm]

/-- The line is that on which the text in front ends.  Nothing else of the octets has a say in it. -/
theorem refusedAt_illFormed_iff (h : IsIllFormed part rest) :
    RefusedAt path (Text.encode head ++ (part ++ rest)) n ↔ n = numberAfter head := by
  rw [refusedAt_iff, wellFormedHead_encode_append, wellFormedHead_illFormed_append h, List.append_nil]
  exact and_iff_right (decode?_illFormed h)

lemma exists_refusedAt (path : Octets) (h : ∀ text, Text.encode text ≠ octets) :
    ∃ n, RefusedAt path octets n := by
  have hdecode : decode? octets = none := decode?_eq_none_iff.2 (not_exists.2 h)
  exact ⟨_, refusedAt_iff.2 ⟨hdecode, rfl⟩⟩

/-- A log that has grown is not refused for a line before the one on which its text ended until then. -/
theorem numberAfter_le_of_refusedAt_append {more : Octets} (h : RefusedAt path (octets ++ more) n) :
    numberAfter (wellFormedHead octets) ≤ n := by
  obtain ⟨longer, hlonger⟩ := wellFormedHead_isPrefix_append octets more
  rw [(refusedAt_iff.1 h).2, ← hlonger]
  exact numberAfter_le_append _ _

/-! ## Reading again -/

/-- **A refusal stays or moves on as the log grows.**  A refused log has a first ill-formed part, and the
line that is named is the one on which the text in front of that part ends.  If the part is not half a
character at the end of the log, the refusal is final: with whatever follows, the same line is named
again.  If it is, a later reading accepts the log, or it names this line or one after it.  And where a
log was accepted, no line is named later that lies before the one on which its text ended. -/
theorem refusal_stays_or_moves_on (path octets : Octets) :
    (∀ n, RefusedAt path octets n →
      (∃ head part rest, octets = Text.encode head ++ (part ++ rest) ∧ IsIllFormed part rest) ∧
      ∀ head part rest, octets = Text.encode head ++ (part ++ rest) → IsIllFormed part rest →
        n = numberAfter head ∧
        (¬ CutOff part rest → ∀ more, RefusedAt path (octets ++ more) n) ∧
        (CutOff part rest → ∀ more,
          (∃ text, (Log.receive path (.ok (octets ++ more))).outcome = .ok ⟨path, text⟩) ∨
            ∃ m, n ≤ m ∧ RefusedAt path (octets ++ more) m)) ∧
    ∀ text, Text.encode text = octets → ∀ more, (∀ whole, Text.encode whole ≠ octets ++ more) →
      ∃ m, numberAfter text ≤ m ∧ RefusedAt path (octets ++ more) m := by
  constructor
  · intro n hrefused
    obtain ⟨hdecode, hnumber⟩ := refusedAt_iff.1 hrefused
    refine ⟨exists_illFormed hdecode, ?_⟩
    rintro head part rest rfl hpart
    have hn : n = numberAfter head := (refusedAt_illFormed_iff hpart).1 hrefused
    refine ⟨hn, fun hwhole more => ?_, fun _ more => ?_⟩
    · rw [List.append_assoc, List.append_assoc]
      exact (refusedAt_illFormed_iff (hpart.append hwhole more)).2 hn
    · by_cases haccepted : ∃ text, Text.encode text = Text.encode head ++ (part ++ rest) ++ more
      · obtain ⟨text, htext⟩ := haccepted
        exact Or.inl ⟨text, ofOctets_eq_ok htext⟩
      · obtain ⟨m, hm⟩ := exists_refusedAt path (not_exists.1 haccepted)
        exact Or.inr ⟨m, hnumber ▸ numberAfter_le_of_refusedAt_append hm, hm⟩
  · rintro text rfl more hnone
    obtain ⟨m, hm⟩ := exists_refusedAt path hnone
    have hle := numberAfter_le_of_refusedAt_append hm
    rw [wellFormedHead_encode] at hle
    exact ⟨m, hle, hm⟩

/-- The same log, which ends in a carriage return, goes on with an octet that is no beginning, with half
a line separator, and with the line feed of the pair. -/
theorem refusal_stays_or_moves_on_after_carriage_return :
    let text := ['a', '\r']
    (IsIllFormed [0xFF] [] ∧ ¬ CutOff [0xFF] [] ∧
      RefusedAt [] (Text.encode text ++ ([0xFF] ++ [])) 2 ∧
      RefusedAt [] (Text.encode text ++ ([0xFF] ++ []) ++ [0x0A]) 2) ∧
    (IsIllFormed [0xE2, 0x80] [] ∧ CutOff [0xE2, 0x80] [] ∧
      RefusedAt [] (Text.encode text ++ ([0xE2, 0x80] ++ [])) 2 ∧
      ∃ m, 2 ≤ m ∧ RefusedAt [] (Text.encode text ++ ([0xE2, 0x80] ++ []) ++ [0xA8, 0xFF]) m) ∧
    (∀ whole, Text.encode whole ≠ Text.encode text ++ [0x0A, 0xFF]) ∧
    ∃ m, 2 ≤ m ∧ RefusedAt [] (Text.encode text ++ [0x0A, 0xFF]) m := by
  intro text
  have hno : reading [0xFF] = .neither := by decide
  have hsingle : IsIllFormed [0xFF] [] := isIllFormed_singleton hno []
  have hwhole : ¬ CutOff [0xFF] [] := fun h =>
    (reading_eq_neither_iff (List.cons_ne_nil _ _)).1 hno h.2
  have hhalf : IsIllFormed [0xE2, 0x80] [] := isIllFormed_of_beginning (by decide) (by simp)
  have hcut : CutOff [0xE2, 0x80] [] := ⟨rfl, '\u2028', by decide⟩
  have hnumber : 2 = numberAfter text := by decide
  have hfirst : RefusedAt [] (Text.encode text ++ ([0xFF] ++ [])) 2 :=
    (refusedAt_illFormed_iff hsingle).2 hnumber
  have hsecond : RefusedAt [] (Text.encode text ++ ([0xE2, 0x80] ++ [])) 2 :=
    (refusedAt_illFormed_iff hhalf).2 hnumber
  have hnone : ∀ whole, Text.encode whole ≠ Text.encode text ++ [0x0A, 0xFF] :=
    not_exists.1 (decode?_eq_none_iff.1 (by decide))
  refine ⟨⟨hsingle, hwhole, hfirst, ?_⟩, ⟨hhalf, hcut, hsecond, ?_⟩, hnone, ?_⟩
  · obtain ⟨-, hparts⟩ := (refusal_stays_or_moves_on [] _).1 2 hfirst
    exact (hparts text [0xFF] [] rfl hsingle).2.1 hwhole [0x0A]
  · obtain ⟨-, hparts⟩ := (refusal_stays_or_moves_on [] _).1 2 hsecond
    rcases (hparts text [0xE2, 0x80] [] rfl hhalf).2.2 hcut [0xA8, 0xFF] with
      ⟨whole, haccepted⟩ | hlater
    · have hbad : decode? (Text.encode text ++ ([0xE2, 0x80] ++ []) ++ [0xA8, 0xFF]) = none := by decide
      obtain ⟨m, hrefused⟩ := exists_refusedAt [] (not_exists.1 (decode?_eq_none_iff.1 hbad))
      rw [RefusedAt, haccepted] at hrefused
      cases hrefused
    · exact hlater
  · exact (refusal_stays_or_moves_on [] _).2 text rfl [0x0A, 0xFF] hnone

end LogSieve
