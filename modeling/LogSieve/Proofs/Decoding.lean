import LogSieve.Log
import LogSieve.Proofs.Line.Append
import LogSieve.Proofs.Utf8.Segments

/-!
# Where the first bad octet stands

A log whose octets are no text is refused with a line number.  The number is counted in the text in
front of the first ill-formed part, while a reader of the log who opens it in a forgiving viewer
counts in a different text, the one with U+FFFD for each ill-formed part.  The two agree.

* `decode?_take_validUpTo` — the text in front can be decoded by itself, so nothing ever stands in
  for it, and `isPrefix_wellFormedHead` says that it is the longest text there is in front.
* `split_append_replacement` — the lines of a text that goes on with U+FFFD.
* **`receive_decodes_or_points`** — what reading a log comes to, for any octets.
-/

namespace LogSieve

open Line Utf8

/-! ## The text in front -/

/-- Octets begin with the encoding of their well-formed head. -/
lemma encode_wellFormedHead_isPrefix (octets : Octets) :
    Text.encode (wellFormedHead octets) <+: octets := by
  cases hdecode : decode? octets with
  | some text =>
      obtain rfl := decode?_eq_some_iff.1 hdecode
      exact ⟨[], by rw [wellFormedHead_encode, List.append_nil]⟩
  | none =>
      obtain ⟨head, part, rest, rfl, hpart⟩ := exists_illFormed hdecode
      rw [wellFormedHead_encode_append, wellFormedHead_illFormed_append hpart, List.append_nil]
      exact ⟨part ++ rest, rfl⟩

/-- No longer text stands in front. -/
lemma isPrefix_wellFormedHead {text : Text} {octets : Octets} (h : Text.encode text <+: octets) :
    text <+: wellFormedHead octets := by
  obtain ⟨rest, rfl⟩ := h
  rw [wellFormedHead_encode_append]
  exact List.prefix_append _ _

/-- The octets in front of the first ill-formed part decode to the head. -/
lemma decode?_take_validUpTo (octets : Octets) :
    decode? (octets.take (validUpTo octets)) = some (wellFormedHead octets) := by
  have htake := List.prefix_iff_eq_take.1 (encode_wellFormedHead_isPrefix octets)
  rw [decode?_eq_some_iff, validUpTo]
  exact htake

lemma validHead_eq (octets : Octets) : Log.validHead octets = wellFormedHead octets := by
  rw [Log.validHead, decode?_take_validUpTo, Option.getD_some]

lemma ofOctets_eq_ok {path octets : Octets} {text : Text} (h : Text.encode text = octets) :
    Log.ofOctets path octets = .ok ⟨path, text⟩ := by
  rw [Log.ofOctets, decode?_eq_some_iff.2 h]

lemma ofOctets_eq_error {path octets : Octets} (h : decode? octets = none) :
    Log.ofOctets path octets =
      .error (.illEncoded path ((ended (wellFormedHead octets)).length + 1)) := by
  rw [Log.ofOctets, h, validHead_eq, numberAfter_eq]

/-! ## The line -/

/-- The replacement character ends no line: it stands on the line that the head has not ended. -/
lemma split_append_replacement (head tail : Text) :
    ∃ line lines, split (head ++ '\uFFFD' :: tail) =
      ended head ++ (unended head ++ '\uFFFD' :: line) :: lines := by
  have hfirst : ∃ line lines, split ('\uFFFD' :: tail) = ('\uFFFD' :: line) :: lines := by
    rw [split_cons, if_neg (by decide)]
    cases split tail with
    | nil => exact ⟨[], [], rfl⟩
    | cons line lines => exact ⟨line, lines, rfl⟩
  obtain ⟨line, lines, hlines⟩ := hfirst
  refine ⟨line, lines, ?_⟩
  rw [split_append (by simp) (by simp), hlines]
  rfl

/-! ## Reading a log -/

/-- The first ill-formed part of octets: the text in front of it, which is the longest there is, the
part itself, and the segments after it. -/
structure IsFirstIllFormed (octets : Octets) (head : Text) (part : Octets)
    (more : List Segment) : Prop where
  isPrefix : Text.encode head <+: octets
  longest : ∀ text, Text.encode text <+: octets →
    (Text.encode text).length ≤ (Text.encode head).length
  segmented : Segmented octets (head.map Segment.character ++ .illFormed part :: more)

lemma IsFirstIllFormed.lossy_eq {octets part : Octets} {head : Text} {more : List Segment}
    (h : IsFirstIllFormed octets head part more) :
    lossy octets = head ++ '\uFFFD' :: more.map Segment.shown := by
  rw [lossy, segments_eq_iff.2 h.segmented]
  simp [Function.comp_def, Segment.shown]

lemma exists_isFirstIllFormed {octets : Octets} (h : decode? octets = none) :
    ∃ part more, IsFirstIllFormed octets (wellFormedHead octets) part more := by
  obtain ⟨head, part, rest, hoctets, hpart⟩ := exists_illFormed h
  have hhead : wellFormedHead octets = head := by
    rw [hoctets, wellFormedHead_encode_append, wellFormedHead_illFormed_append hpart,
      List.append_nil]
  have hsegments : segments octets = head.map .character ++ .illFormed part :: segments rest := by
    rw [hoctets, segments_encode_append, segments_illFormed_append hpart]
  refine ⟨part, segments rest, encode_wellFormedHead_isPrefix octets, ?_, ?_⟩
  · intro text htext
    obtain ⟨tail, htail⟩ := isPrefix_wellFormedHead htext
    rw [← htail, Text.encode_append, List.length_append]
    omega
  · rw [hhead]
    exact segments_eq_iff.1 hsegments

/-- **Reading a log decodes it or points at the line.**  Octets that encode a text give that text.
Any others have a first ill-formed part, and the failure names the line on which U+FFFD stands for
it when each ill-formed part is shown so: the lines before are those that the text in front has
ended, and this one begins with what that text has not ended. -/
theorem receive_decodes_or_points (path octets : Octets) :
    (∀ text, Text.encode text = octets →
      (Log.receive path (.ok octets)).outcome = .ok ⟨path, text⟩) ∧
    ((∀ text, Text.encode text ≠ octets) → ∃ head part more n line,
      (Log.receive path (.ok octets)).outcome = .error (.illEncoded path n) ∧
      IsFirstIllFormed octets head part more ∧
      decode? (octets.take (validUpTo octets)) = some head ∧
      lossy octets = head ++ '\uFFFD' :: more.map Segment.shown ∧
      1 ≤ n ∧ (split (lossy octets)).take (n - 1) = ended head ∧
      (split (lossy octets))[n - 1]? = some (unended head ++ '\uFFFD' :: line)) := by
  refine ⟨fun text htext => ofOctets_eq_ok htext, fun hnone => ?_⟩
  have hdecode : decode? octets = none := by
    cases h : decode? octets with
    | none => rfl
    | some text => exact absurd (decode?_eq_some_iff.1 h) (hnone text)
  obtain ⟨part, more, hfirst⟩ := exists_isFirstIllFormed hdecode
  have hlossy := hfirst.lossy_eq
  obtain ⟨line, lines, hsplit⟩ :=
    split_append_replacement (wellFormedHead octets) (more.map Segment.shown)
  refine ⟨wellFormedHead octets, part, more, (ended (wellFormedHead octets)).length + 1, line,
    ofOctets_eq_error hdecode, hfirst, decode?_take_validUpTo octets, hlossy, by omega, ?_, ?_⟩
  · rw [hlossy, hsplit]
    simp
  · rw [hlossy, hsplit]
    simp

/-- The log ends inside a line separator, right after a CR: the second line is to blame. -/
theorem receive_points_after_carriage_return :
    Text.encode ['a', '\r'] = [0x61, 0x0D] ∧
      (Log.receive [] (.ok [0x61, 0x0D])).outcome = .ok ⟨[], ['a', '\r']⟩ ∧
      (∀ text, Text.encode text ≠ [0x61, 0x0D, 0xE2, 0x80]) ∧
      ∃ n line, (Log.receive [] (.ok [0x61, 0x0D, 0xE2, 0x80])).outcome =
          .error (.illEncoded [] n) ∧
        n = 2 ∧ (split (lossy [0x61, 0x0D, 0xE2, 0x80]))[n - 1]? = some ('\uFFFD' :: line) := by
  have hdecode : decode? [0x61, 0x0D, 0xE2, 0x80] = none := by decide
  have hnone : ∀ text, Text.encode text ≠ [0x61, 0x0D, 0xE2, 0x80] := fun text htext => by
    rw [decode?_eq_some_iff.2 htext] at hdecode
    cases hdecode
  obtain ⟨head, part, more, n, line, hreceive, -, hhead, -, -, -, hline⟩ :=
    (receive_decodes_or_points [] [0x61, 0x0D, 0xE2, 0x80]).2 hnone
  have hvalid : decode? ([0x61, 0x0D, 0xE2, 0x80].take (validUpTo [0x61, 0x0D, 0xE2, 0x80])) =
      some ['a', '\r'] := by decide
  obtain rfl : ['a', '\r'] = head := Option.some.inj (hvalid.symm.trans hhead)
  refine ⟨by decide, (receive_decodes_or_points [] _).1 _ (by decide), hnone, n, line, hreceive, ?_,
    hline⟩
  have htwo : (Log.receive [] (.ok [0x61, 0x0D, 0xE2, 0x80])).outcome =
      .error (.illEncoded [] 2) := by rfl
  rw [htwo] at hreceive
  cases hreceive
  rfl

end LogSieve
