import LogSieve.Proofs.Line.Slices
import LogSieve.Proofs.Utf8.Alignment
import LogSieve.Selection

/-!
# Lines among octets

A log can be cut without being decoded: go through its octets, and wherever one of eleven patterns
begins, a line is over.  Such a scan knows nothing of characters.  It finds the lines all the same, since
no pattern turns up inside a character.

* `endingPatterns` and `splitOctets` — the patterns and the scan.  `endingPatterns_eq` says what the
  patterns are: the endings in UTF-8, the pair before its first half.
* `afterPattern?_encode`, `cutOctets_character` — the scan in front of a character and inside of one.
* `splitOctets_encode` — the scan finds the lines of a text.
* `selectOctets_encode` — beginning with the octets of a marker is bearing the marker.
* **`octets_and_characters_agree`** — the two together, and with them the slices by which a cursor takes
  its lines out of the octets.
-/

namespace LogSieve

open Utf8

namespace Line

/-! ## The scan -/

/-- The octets that end a line, longer patterns before the shorter ones they begin with. -/
def endingPatterns : List Octets :=
  [[0x0D, 0x0A], [0x0A], [0x0D], [0x0B], [0x0C], [0x1C], [0x1D], [0x1E], [0xC2, 0x85],
    [0xE2, 0x80, 0xA8], [0xE2, 0x80, 0xA9]]

/-- The octets after the first pattern that octets begin with. -/
def afterPattern? (octets : Octets) : Option Octets :=
  endingPatterns.findSome? fun pattern => dropLeading pattern octets

lemma length_lt_of_afterPattern? {octets after : Octets} (h : afterPattern? octets = some after) :
    after.length < octets.length := by
  obtain ⟨pattern, hpattern, hdrop⟩ := List.exists_of_findSome?_eq_some h
  have hne : ∀ pattern ∈ endingPatterns, pattern ≠ [] := by decide
  rw [dropLeading_eq_some_iff.1 hdrop, List.length_append]
  have hpos := List.length_pos_iff.2 (hne pattern hpattern)
  omega

/-- The pieces of octets between patterns, where `piece` is what has been read of the first of them.
A last piece that is empty is left out. -/
def cutOctets (piece : Octets) (octets : Octets) : List Octets :=
  match octets with
  | [] => if piece.isEmpty then [] else [piece]
  | octet :: rest =>
    match _h : afterPattern? (octet :: rest) with
    | some after => piece :: cutOctets [] after
    | none => cutOctets (piece ++ [octet]) rest
termination_by octets.length
decreasing_by
  · exact length_lt_of_afterPattern? _h
  · simp

def splitOctets (octets : Octets) : List Octets :=
  cutOctets [] octets

lemma cutOctets_of_some {piece after : Octets} {octet : UInt8} {rest : Octets}
    (h : afterPattern? (octet :: rest) = some after) :
    cutOctets piece (octet :: rest) = piece :: cutOctets [] after := by
  rw [cutOctets]
  split
  · next heq =>
      rw [h] at heq
      cases heq
      rfl
  · next heq =>
      rw [h] at heq
      cases heq

lemma cutOctets_of_none {piece : Octets} {octet : UInt8} {rest : Octets}
    (h : afterPattern? (octet :: rest) = none) :
    cutOctets piece (octet :: rest) = cutOctets (piece ++ [octet]) rest := by
  rw [cutOctets]
  split
  · next heq =>
      rw [h] at heq
      cases heq
  · rfl

/-! ## In front of a character -/

/-- The endings as texts, in the order in which they are looked for. -/
def endings : List Text :=
  ['\r', '\n'] :: terminators.map fun c => [c]

/-- The patterns are the endings in UTF-8. -/
lemma endingPatterns_eq : endingPatterns = endings.map Text.encode := by decide

lemma findSome?_dropLeading_singleton (chars : List Char) (c : Char) (rest : Text) :
    (chars.findSome? fun d => dropLeading [d] (c :: rest)) =
      if chars.contains c then some rest else none := by
  induction chars with
  | nil => rfl
  | cons d chars ih =>
      rw [List.findSome?_cons, ih]
      by_cases hd : d = c
      · simp [dropLeading, hd]
      · simp [dropLeading, hd, Ne.symm hd]

/-- Looking for the endings in their order finds what `split` takes for the ending. -/
lemma findSome?_endings (c : Char) (rest : Text) :
    (endings.findSome? fun ending => dropLeading ending (c :: rest)) =
      if isTerminator c then some (afterEnding c rest) else none := by
  rw [endings, List.findSome?_cons, List.findSome?_map]
  cases hpair : dropLeading ['\r', '\n'] (c :: rest) with
  | some after =>
      obtain ⟨rfl, rfl⟩ : c = '\r' ∧ rest = '\n' :: after := by
        simpa using dropLeading_eq_some_iff.1 hpair
      rfl
  | none =>
      have hafter : afterEnding c rest = rest := by
        refine afterEnding_of_head?_ne fun hcr hfeed => ?_
        obtain ⟨more, rfl⟩ := List.head?_eq_some_iff.1 hfeed
        rw [hcr] at hpair
        cases hpair
      rw [hafter]
      exact findSome?_dropLeading_singleton terminators c rest

theorem afterPattern?_encode (c : Char) (rest : Text) :
    afterPattern? (Text.encode (c :: rest)) =
      if isTerminator c then some (Text.encode (afterEnding c rest)) else none := by
  have hmap : afterPattern? (Text.encode (c :: rest)) =
      (endings.findSome? fun ending => dropLeading ending (c :: rest)).map Text.encode := by
    rw [afterPattern?, endingPatterns_eq, List.findSome?_map, List.map_findSome?]
    simp only [Function.comp_def, dropLeading_encode]
  rw [hmap, findSome?_endings]
  split_ifs <;> rfl

/-! ## Inside a character -/

lemma afterPattern?_of_isTail {octet : UInt8} (h : isTail octet = true) (rest : Octets) :
    afterPattern? (octet :: rest) = none := by
  rw [afterPattern?, endingPatterns_eq, List.findSome?_map, List.findSome?_eq_none_iff]
  intro ending hending
  have hne : ∀ ending ∈ endings, ending ≠ [] := by decide
  rw [Option.eq_none_iff_forall_ne_some]
  intro after hafter
  exact not_isPrefix_of_isTail (hne ending hending) h
    ⟨after, (dropLeading_eq_some_iff.1 hafter).symm⟩

/-- Tails are read one by one. -/
lemma cutOctets_tails {tails : Octets} (h : ∀ octet ∈ tails, isTail octet = true)
    (piece rest : Octets) : cutOctets piece (tails ++ rest) = cutOctets (piece ++ tails) rest := by
  induction tails generalizing piece with
  | nil => rw [List.append_nil, List.nil_append]
  | cons octet tails ih =>
      obtain ⟨hoctet, htails⟩ := List.forall_mem_cons.1 h
      rw [List.cons_append, cutOctets_of_none (afterPattern?_of_isTail hoctet _), ih htails,
        List.append_assoc, List.singleton_append]

/-- A character that ends no line is read as a whole. -/
lemma cutOctets_character {c : Char} (hc : isTerminator c = false) (piece : Octets) (rest : Text) :
    cutOctets piece (Text.encode (c :: rest)) =
      cutOctets (piece ++ String.utf8EncodeChar c) (Text.encode rest) := by
  have hnone := afterPattern?_encode c rest
  obtain ⟨octet, tails, hrun⟩ :=
    List.exists_cons_of_ne_nil (String.utf8EncodeChar_ne_nil (c := c))
  have htails : ∀ other ∈ tails, isTail other = true := fun other hother =>
    isTail_of_mem_tail (c := c) (by rwa [hrun])
  rw [hc, Text.encode_cons, hrun, List.cons_append] at hnone
  rw [Text.encode_cons, hrun, List.cons_append, cutOctets_of_none hnone, cutOctets_tails htails,
    List.append_assoc, List.singleton_append]

/-- A character that ends a line closes the piece. -/
lemma cutOctets_ending {c : Char} (hc : isTerminator c = true) (piece : Octets) (rest : Text) :
    cutOctets piece (Text.encode (c :: rest)) =
      piece :: cutOctets [] (Text.encode (afterEnding c rest)) := by
  have hsome := afterPattern?_encode c rest
  obtain ⟨octet, tails, hrun⟩ :=
    List.exists_cons_of_ne_nil (String.utf8EncodeChar_ne_nil (c := c))
  rw [hc, if_pos rfl, Text.encode_cons, hrun, List.cons_append] at hsome
  rw [Text.encode_cons, hrun, List.cons_append, cutOctets_of_some hsome]

/-! ## The lines -/

/-- The scan finds the lines, also when it begins in the middle of one. -/
theorem cutOctets_encode {front : Text} (hfront : Plain front) (text : Text) :
    cutOctets (Text.encode front) (Text.encode text) =
      (split (front ++ text)).map Text.encode := by
  induction hn : text.length using Nat.strongRecOn generalizing front text with
  | _ n ih =>
      cases text with
      | nil =>
          by_cases hne : front = []
          · subst hne
            rw [Text.encode_nil, cutOctets]
            rfl
          · have hoctets : (Text.encode front).isEmpty = false := by
              obtain ⟨c, front, rfl⟩ := List.exists_cons_of_ne_nil hne
              simp [String.utf8EncodeChar_ne_nil]
            rw [Text.encode_nil, List.append_nil, cutOctets, split_of_plain hne hfront, hoctets]
            rfl
      | cons c rest =>
          rw [List.length_cons] at hn
          by_cases hc : isTerminator c = true
          · have hlength := length_afterEnding_le c rest
            obtain ⟨ending, hending, heq⟩ := exists_endsBefore hc rest
            have hafter := ih _ (by omega) plain_nil (afterEnding c rest) rfl
            rw [Text.encode_nil, List.nil_append] at hafter
            rw [cutOctets_ending hc, hafter, ← heq, ← List.append_assoc,
              split_append_ending hfront hending]
            rfl
          · rw [Bool.not_eq_true] at hc
            have hplain : Plain (front ++ [c]) :=
              plain_append.2 ⟨hfront, plain_cons.2 ⟨hc, plain_nil⟩⟩
            have hrest := ih rest.length (by omega) hplain rest rfl
            rw [Text.encode_append, List.append_assoc] at hrest
            rw [cutOctets_character hc]
            simpa using hrest

theorem splitOctets_encode (content : Text) :
    splitOctets (Text.encode content) = (split content).map Text.encode :=
  cutOctets_encode plain_nil content

end Line

/-! ## The selection -/

/-- The pieces of octets that begin with the octets of a marker. -/
def selectOctets (tag : Tag) (octets : Octets) : List Octets :=
  (Line.splitOctets octets).filter (Text.encode tag.marker).isPrefixOf

lemma isPrefixOf_encode_marker (tag : Tag) (line : Line) :
    (Text.encode tag.marker).isPrefixOf (Text.encode line) = tag.marks line := by
  rw [Bool.eq_iff_iff, Tag.marks, List.isPrefixOf_iff_prefix, List.isPrefixOf_iff_prefix,
    encode_isPrefix_iff]

theorem selectOctets_encode (tag : Tag) (content : Text) :
    selectOctets tag (Text.encode content) = (select tag content).map Text.encode := by
  rw [selectOctets, Line.splitOctets_encode, List.filter_map, select]
  congr 1
  refine List.filter_congr fun line _ => ?_
  exact isPrefixOf_encode_marker tag line

/-! ## Together -/

/-- **Octets and characters agree.**  The scan finds the lines of a text and the lines that bear a
marker, as octets.  A cursor that finds its line by counting octets takes the line that it takes by
characters: each place at which it slices lies in the text that it has not read, on the boundary of a
character. -/
theorem octets_and_characters_agree (content : Text) (tag : Tag) :
    Line.splitOctets (Text.encode content) = (Line.split content).map Text.encode ∧
      selectOctets tag (Text.encode content) = (select tag content).map Text.encode ∧
      ∀ cursor : Cursor, cursor.nextBySlices? = some cursor.next? ∧
        ∀ first c, cursor.stop? = some (first, c) →
          ∃ last, Cursor.endingEnd? cursor.rest first c = some last ∧
            ∀ n ∈ [first, first + c.utf8Size, last],
              n ≤ Text.octetCount cursor.rest ∧ Text.OnBoundary cursor.rest n := by
  refine ⟨Line.splitOctets_encode content, selectOctets_encode tag content, fun cursor =>
    ⟨cursor.nextBySlices?_eq, fun first c hstop => ?_⟩⟩
  obtain ⟨last, hlast, hplaces⟩ := Cursor.onBoundary_of_stop? hstop
  exact ⟨last, hlast, fun n hn => ⟨(hplaces n hn).le, hplaces n hn⟩⟩

/-- A tag and endings of several octets, and a cursor in front of a pair. -/
theorem octets_and_characters_agree_long_endings :
    let content := "[é] é\u0085\r\nx\u2028[é] ".toList
    Line.splitOctets (Text.encode content) =
        ["[é] é", "", "x", "[é] "].map (Text.encode ·.toList) ∧
      selectOctets ⟨"é".toList⟩ (Text.encode content) =
        ["[é] é", "[é] "].map (Text.encode ·.toList) ∧
      Cursor.stop? ⟨"é\r\nx".toList⟩ = some (2, '\r') ∧
      Cursor.endingEnd? "é\r\nx".toList 2 '\r' = some 4 ∧ 4 ∈ [2, 2 + '\r'.utf8Size, 4] ∧
      4 ≤ Text.octetCount "é\r\nx".toList ∧ Text.OnBoundary "é\r\nx".toList 4 := by
  intro content
  obtain ⟨hsplit, hselect, hcursor⟩ := octets_and_characters_agree content ⟨"é".toList⟩
  have hstop : Cursor.stop? ⟨"é\r\nx".toList⟩ = some (2, '\r') := by decide
  have hend : Cursor.endingEnd? "é\r\nx".toList 2 '\r' = some 4 := by decide
  obtain ⟨last, hlast, hplaces⟩ := (hcursor ⟨"é\r\nx".toList⟩).2 2 '\r' hstop
  obtain rfl : 4 = last := Option.some.inj (hend.symm.trans hlast)
  have hmem : 4 ∈ [2, 2 + '\r'.utf8Size, 4] := by decide
  exact ⟨hsplit.trans (by decide), hselect.trans (by decide), hstop, hend, hmem, hplaces 4 hmem⟩

end LogSieve
