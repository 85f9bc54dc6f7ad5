import LogSieve.Proofs.Line.Cut

/-!
# Taking lines out of a text by octets

A text lies in memory as octets.  To take a line out of it is to slice there, and a slice that begins
or ends inside a character, or beyond the text, is not to be had.  So a cursor that finds the end of its
line by counting octets has to hit the characters each time.

* `Text.OnBoundary` — the places at which a text can be sliced; `Text.splitAtOctet?_eq_some_iff` says
  that these are all of them.
* `Cursor.nextBySlices?` — the next line by octet numbers: `stop?` finds the terminator and
  `endingEnd?` the place behind its ending.
* `Cursor.nextBySlices?_eq` — no slice fails, and the lines are those of `Cursor.next?`.
* `Cursor.onBoundary_of_stop?` — the places themselves.
-/

namespace LogSieve

namespace Text

/-! ## Places in a text -/

/-- A number of octets after which a character begins or the text ends. -/
def OnBoundary (text : Text) (n : Nat) : Prop :=
  ∃ front back, front ++ back = text ∧ octetCount front = n

@[simp] lemma octetCount_nil : octetCount [] = 0 := rfl

@[simp] lemma octetCount_cons (c : Char) (text : Text) :
    octetCount (c :: text) = c.utf8Size + octetCount text := by
  simp [octetCount]

@[simp] lemma octetCount_append (front back : Text) :
    octetCount (front ++ back) = octetCount front + octetCount back := by
  simp [octetCount]

lemma OnBoundary.le {text : Text} {n : Nat} (h : OnBoundary text n) : n ≤ octetCount text := by
  obtain ⟨front, back, rfl, rfl⟩ := h
  rw [octetCount_append]
  exact Nat.le_add_right _ _

lemma splitAtOctet?_append (front back : Text) :
    splitAtOctet? (front ++ back) (octetCount front) = some (front, back) := by
  induction front with
  | nil => simp [splitAtOctet?]
  | cons c front ih =>
      have hpos := c.utf8Size_pos
      obtain ⟨n, hn⟩ : ∃ n, octetCount (c :: front) = n + 1 :=
        Nat.exists_eq_add_of_le' (by rw [octetCount_cons]; omega)
      have hle : c.utf8Size ≤ n + 1 := by rw [← hn, octetCount_cons]; omega
      have hrest : n + 1 - c.utf8Size = octetCount front := by rw [← hn, octetCount_cons]; omega
      rw [hn, List.cons_append, splitAtOctet?, if_pos hle, hrest, ih]
      rfl

lemma octetCount_of_splitAtOctet? {text front back : Text} {n : Nat}
    (h : splitAtOctet? text n = some (front, back)) : octetCount front = n := by
  induction text generalizing n front with
  | nil =>
      cases n with
      | zero => simp_all [splitAtOctet?]
      | succ n => simp [splitAtOctet?] at h
  | cons c rest ih =>
      cases n with
      | zero => simp_all [splitAtOctet?]
      | succ n =>
          rw [splitAtOctet?] at h
          split at h
          · next hle =>
              obtain ⟨⟨front', back'⟩, hrest, hpair⟩ := Option.map_eq_some_iff.1 h
              obtain ⟨rfl, rfl⟩ := Prod.mk.inj hpair
              rw [octetCount_cons, ih hrest]
              omega
          · cases h

/-- A text can be sliced where a character begins or the text ends, and nowhere else. -/
theorem splitAtOctet?_eq_some_iff {text front back : Text} {n : Nat} :
    splitAtOctet? text n = some (front, back) ↔ front ++ back = text ∧ octetCount front = n := by
  constructor
  · exact fun h => ⟨append_of_splitAtOctet? h, octetCount_of_splitAtOctet? h⟩
  · rintro ⟨rfl, rfl⟩
    exact splitAtOctet?_append front back

/-- The characters of a text, each with the number of octets in front of it, when there are `n` in front
of the first. -/
def placed (n : Nat) : Text → List (Nat × Char)
  | [] => []
  | c :: rest => (n, c) :: placed (n + c.utf8Size) rest

end Text

/-! ## A cursor that slices -/

namespace Cursor

/-- The terminator that ends the next line, and the number of octets in front of it. -/
def stop? (cursor : Cursor) : Option (Nat × Char) :=
  (Text.placed 0 cursor.rest).find? fun place => Line.isTerminator place.2

/-- The number of octets up to the end of the ending whose first character is `c`.  After a carriage
return the rest of the text is looked at. -/
def endingEnd? (rest : Text) (first : Nat) (c : Char) : Option Nat :=
  let last := first + c.utf8Size
  if c = '\r' then
    (Text.splitAtOctet? rest last).map fun (_, after) =>
      if after.head? = some '\n' then last + 1 else last
  else some last

/-- The next line and the cursor behind its ending, all taken by slices.  There is no answer if a slice
is not to be had. -/
def nextBySlices? (cursor : Cursor) : Option (Option (Line × Cursor)) :=
  if cursor.rest.isEmpty then some none
  else
    match cursor.stop? with
    | none => some (some (cursor.rest, ⟨[]⟩))
    | some (first, c) => do
      let (line, _) ← Text.splitAtOctet? cursor.rest first
      let last ← endingEnd? cursor.rest first c
      let (_, after) ← Text.splitAtOctet? cursor.rest last
      return some (line, ⟨after⟩)

open Line

lemma find?_placed_of_plain {line : Text} (hline : Plain line) (n : Nat) :
    ((Text.placed n line).find? fun place => isTerminator place.2) = none := by
  induction line generalizing n with
  | nil => rfl
  | cons c line ih =>
      obtain ⟨hc, hline⟩ := plain_cons.1 hline
      simp [Text.placed, hc, ih hline]

lemma find?_placed_append {line : Text} (hline : Plain line) {c : Char}
    (hc : isTerminator c = true) (tail : Text) (n : Nat) :
    ((Text.placed n (line ++ c :: tail)).find? fun place => isTerminator place.2) =
      some (n + Text.octetCount line, c) := by
  induction line generalizing n with
  | nil => simp [Text.placed, hc]
  | cons d line ih =>
      obtain ⟨hd, hline⟩ := plain_cons.1 hline
      simp [Text.placed, hd, ih hline, Nat.add_assoc]

/-- The place behind an ending can be sliced at, and what follows there is what follows the ending. -/
lemma exists_endingEnd? (line : Text) (c : Char) (tail : Text) :
    ∃ last front, endingEnd? (line ++ c :: tail) (Text.octetCount line) c = some last ∧
      Text.splitAtOctet? (line ++ c :: tail) last = some (front, afterEnding c tail) := by
  have hbehind : Text.splitAtOctet? (line ++ c :: tail) (Text.octetCount line + c.utf8Size) =
      some (line ++ [c], tail) := Text.splitAtOctet?_eq_some_iff.2 (by simp)
  by_cases hcr : c = '\r'
  · by_cases hfeed : tail.head? = some '\n'
    · obtain ⟨more, rfl⟩ := List.head?_eq_some_iff.1 hfeed
      refine ⟨Text.octetCount line + c.utf8Size + 1, line ++ [c, '\n'], ?_, ?_⟩
      · simp [endingEnd?, hcr ▸ hbehind, hcr]
      · rw [afterEnding, if_pos hcr, Text.splitAtOctet?_eq_some_iff]
        refine ⟨by simp [dropLineFeed], ?_⟩
        have hone : Char.utf8Size '\n' = 1 := rfl
        simp [hone, Nat.add_assoc]
    · refine ⟨Text.octetCount line + c.utf8Size, line ++ [c], ?_, ?_⟩
      · simp only [endingEnd?, hbehind, if_pos hcr, Option.map_some, if_neg hfeed]
      · rw [afterEnding_of_head?_ne fun _ => hfeed]
        exact hbehind
  · refine ⟨Text.octetCount line + c.utf8Size, line ++ [c], if_neg hcr, ?_⟩
    rw [afterEnding, if_neg hcr]
    exact hbehind

lemma next?_of_plain {line : Text} (hne : line ≠ []) (hline : Plain line) :
    next? ⟨line⟩ = some (line, ⟨[]⟩) := by
  have hcut := (IsCut.singleton hne hline).next?_eq
  simpa using hcut

lemma next?_append_ending {line ending rest : Text} (hline : Plain line)
    (hending : EndsBefore ending rest) : next? ⟨line ++ ending ++ rest⟩ = some (line, ⟨rest⟩) := by
  obtain ⟨pieces, rfl, hcut⟩ := IsCut.exists_glue_eq rest
  have hwhole : IsCut (⟨line, ending⟩ :: pieces) := .cons hline hending hcut
  exact hwhole.next?_eq

/-- **No slice fails.**  Counting octets, a cursor takes the same line and comes to the same place. -/
theorem nextBySlices?_eq (cursor : Cursor) : cursor.nextBySlices? = some cursor.next? := by
  obtain ⟨rest⟩ := cursor
  rcases eq_nil_or_plain_or_ended rest with
    rfl | ⟨hne, hline⟩ | ⟨line, ending, rest, rfl, hline, hending⟩
  · rfl
  · have hsome : rest.isEmpty = false := by simpa using hne
    rw [next?_of_plain hne hline]
    simp [nextBySlices?, stop?, hsome, find?_placed_of_plain hline]
  · obtain ⟨c, tail, hc, heq, hafter⟩ := hending.exists_cons
    obtain ⟨last, front, hlast, hslice⟩ := exists_endingEnd? line c tail
    rw [next?_append_ending hline hending, List.append_assoc, heq]
    have hstop : stop? ⟨line ++ c :: tail⟩ = some (Text.octetCount line, c) := by
      rw [stop?, find?_placed_append hline hc, Nat.zero_add]
    have hline : Text.splitAtOctet? (line ++ c :: tail) (Text.octetCount line) =
        some (line, c :: tail) := Text.splitAtOctet?_append line (c :: tail)
    simp [nextBySlices?, hstop, hline, hlast, hslice, hafter]

/-- The places at which a cursor slices: in front of the terminator, behind it, and behind the whole
ending. -/
theorem onBoundary_of_stop? {cursor : Cursor} {first : Nat} {c : Char}
    (h : cursor.stop? = some (first, c)) :
    ∃ last, endingEnd? cursor.rest first c = some last ∧
      ∀ n ∈ [first, first + c.utf8Size, last], Text.OnBoundary cursor.rest n := by
  obtain ⟨rest⟩ := cursor
  rcases eq_nil_or_plain_or_ended rest with
    rfl | ⟨-, hline⟩ | ⟨line, ending, rest, rfl, hline, hending⟩
  · cases h
  · rw [stop?, find?_placed_of_plain hline] at h
    cases h
  · obtain ⟨d, tail, hd, heq, -⟩ := hending.exists_cons
    rw [List.append_assoc, heq] at h ⊢
    rw [stop?, find?_placed_append hline hd, Nat.zero_add] at h
    obtain ⟨rfl, rfl⟩ := Prod.mk.inj (Option.some.inj h)
    obtain ⟨last, front, hlast, hslice⟩ := exists_endingEnd? line d tail
    refine ⟨last, hlast, ?_⟩
    simp only [List.forall_mem_cons, List.not_mem_nil, false_implies, implies_true, and_true]
    refine ⟨⟨line, d :: tail, rfl, rfl⟩, ⟨line ++ [d], tail, by simp, by simp⟩, ?_⟩
    exact ⟨front, afterEnding d tail, Text.splitAtOctet?_eq_some_iff.1 hslice⟩

end Cursor

end LogSieve
