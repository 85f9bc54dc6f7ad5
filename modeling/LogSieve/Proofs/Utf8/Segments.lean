import LogSieve.Proofs.Utf8.Table
import Mathlib.Data.List.Basic

/-!
# The segments of octets

`Utf8.segments` is made octet by octet, with a short memory.  This file says what comes out in terms
of encodings alone: the octets are a sequence of encodings and of ill-formed parts, and an
ill-formed part stands where no character does and is as long as it can be while it is the beginning
of one.

* `IsIllFormed` and `Segmented` — that description.
* `Stops` — where a part ends, the octet behind it shows that it does; nothing further on matters.
* **`segments_eq_iff`** — it fits exactly one list of segments, and `segments` finds it.  The machine
  is opened for this and never again.
* `segments_encode_append`, `segments_illFormed_append` — what the description gives for octets that
  begin with a text or with an ill-formed part.
* `decode?_eq_some_iff` — the strict reading is the inverse of the encoding.
* `exists_illFormed` — octets that encode no text, cut at their first ill-formed part.
-/

namespace LogSieve.Utf8

/-! ## Ill-formed parts -/

/-- Octets that some encoding begins with. -/
def Begins (part : Octets) : Prop :=
  ∃ c, part <+: String.utf8EncodeChar c

lemma Begins.of_isPrefix {part longer : Octets} (h : Begins longer) (hpart : part <+: longer) :
    Begins part := by
  obtain ⟨c, hc⟩ := h
  exact ⟨c, hpart.trans hc⟩

/-- A maximal ill-formed part in front of `rest`. -/
structure IsIllFormed (part rest : Octets) : Prop where
  /-- No character stands here. -/
  not_character : ∀ c, ¬ String.utf8EncodeChar c <+: part ++ rest
  /-- The part begins a character, or it is one octet. -/
  begins_or_single : (part ≠ [] ∧ Begins part) ∨ ∃ octet, part = [octet]
  /-- Nothing longer begins a character. -/
  longest : ∀ more, more <+: part ++ rest → Begins more → more.length ≤ part.length

lemma IsIllFormed.length_pos {part rest : Octets} (h : IsIllFormed part rest) :
    0 < part.length := by
  rcases h.begins_or_single with ⟨hne, -⟩ | ⟨octet, rfl⟩
  · exact List.length_pos_iff.2 hne
  · exact Nat.one_pos

/-- A run is a character, a beginning or neither; so the table decides whether it begins one. -/
lemma reading_eq_neither_iff {run : Octets} (hne : run ≠ []) :
    reading run = .neither ↔ ¬ Begins run := by
  constructor
  · rintro h ⟨c, hc⟩
    by_cases heq : run = String.utf8EncodeChar c
    · rw [reading_eq_character_iff.2 heq.symm] at h
      cases h
    · rw [reading_eq_beginning_iff.2 ⟨hne, c, hc, heq⟩] at h
      cases h
  · intro h
    cases hread : reading run with
    | character c =>
        rw [reading_eq_character_iff] at hread
        exact absurd ⟨c, hread ▸ List.prefix_rfl⟩ h
    | beginning =>
        obtain ⟨-, c, hc, -⟩ := reading_eq_beginning_iff.1 hread
        exact absurd ⟨c, hc⟩ h
    | neither => rfl

/-- Whether no character goes on from a part into the octet behind it. -/
def Stops (part rest : Octets) : Prop :=
  ∀ octet, rest.head? = some octet → ¬ Begins (part ++ [octet])

lemma stops_of_not_begins {part rest : Octets} (h : ¬ Begins part) : Stops part rest :=
  fun octet _ hbegins => h (hbegins.of_isPrefix (List.prefix_append part [octet]))

/-- **The next octet decides.**  What begins a character and is longer than the part holds that octet. -/
lemma Stops.length_le {part rest : Octets} (h : Stops part rest) (more : Octets)
    (hmore : more <+: part ++ rest) (hbegins : Begins more) : more.length ≤ part.length := by
  by_contra hlong
  obtain ⟨tail, rfl⟩ : part <+: more :=
    List.prefix_of_prefix_length_le (List.prefix_append part rest) hmore (by omega)
  obtain ⟨octet, tail, rfl⟩ : ∃ octet tail', tail = octet :: tail' :=
    List.exists_cons_of_ne_nil (by rintro rfl; simp at hlong)
  have hhead : rest.head? = some octet := by
    obtain ⟨after, hafter⟩ := (List.prefix_append_right_inj part).1 hmore
    rw [← hafter]
    rfl
  exact h octet hhead (hbegins.of_isPrefix ⟨tail, by simp⟩)

/-- A character that stands at a part is no longer than the part. -/
lemma Stops.utf8EncodeChar_isPrefix {part rest : Octets} (h : Stops part rest) {c : Char}
    (hc : String.utf8EncodeChar c <+: part ++ rest) : String.utf8EncodeChar c <+: part :=
  List.prefix_of_prefix_length_le hc (List.prefix_append part rest)
    (h.length_le _ hc ⟨c, List.prefix_rfl⟩)

/-- An octet that begins no character is an ill-formed part. -/
lemma isIllFormed_singleton {octet : UInt8} (h : reading [octet] = .neither) (rest : Octets) :
    IsIllFormed [octet] rest := by
  have hbegins : ¬ Begins [octet] := (reading_eq_neither_iff (List.cons_ne_nil _ _)).1 h
  have hstops : Stops [octet] rest := stops_of_not_begins hbegins
  refine ⟨fun c hc => ?_, Or.inr ⟨octet, rfl⟩, hstops.length_le⟩
  have hpos : 0 < (String.utf8EncodeChar c).length := List.length_pos_iff.2 String.utf8EncodeChar_ne_nil
  have hin := hstops.utf8EncodeChar_isPrefix hc
  exact hbegins ⟨c, (hin.eq_of_length_le hpos).symm ▸ List.prefix_rfl⟩

lemma IsIllFormed.stops {part rest : Octets} (h : IsIllFormed part rest) : Stops part rest := by
  intro octet hoctet hbegins
  obtain ⟨rest, rfl⟩ := List.head?_eq_some_iff.1 hoctet
  have hle := h.longest (part ++ [octet]) ⟨rest, by simp⟩ hbegins
  rw [List.length_append, List.length_singleton] at hle
  omega

/-- A beginning that the next octet does not continue is an ill-formed part. -/
lemma isIllFormed_of_beginning {part rest : Octets} (h : reading part = .beginning)
    (hstop : ∀ octet, rest.head? = some octet → reading (part ++ [octet]) = .neither) :
    IsIllFormed part rest := by
  obtain ⟨hne, c, hc, hproper⟩ := reading_eq_beginning_iff.1 h
  have hstops : Stops part rest := fun octet hoctet =>
    (reading_eq_neither_iff (by simp)).1 (hstop octet hoctet)
  refine ⟨fun d hd => ?_, Or.inl ⟨hne, c, hc⟩, hstops.length_le⟩
  have hin := hstops.utf8EncodeChar_isPrefix hd
  obtain rfl := eq_of_prefix_utf8EncodeChar (hin.trans hc)
  exact hproper (List.IsPrefix.eq_of_length_le hc (List.IsPrefix.length_le hin))

/-! ## The description -/

/-- Octets as a sequence of characters and ill-formed parts. -/
inductive Segmented : Octets → List Segment → Prop where
  | nil : Segmented [] []
  | character (c : Char) {octets : Octets} {found : List Segment} : Segmented octets found →
      Segmented (String.utf8EncodeChar c ++ octets) (.character c :: found)
  | illFormed {part octets : Octets} {found : List Segment} : IsIllFormed part octets →
      Segmented octets found → Segmented (part ++ octets) (.illFormed part :: found)

namespace Segmented

/-- Where a character stands, it is the first segment. -/
lemma of_character {c : Char} {octets : Octets} {found : List Segment}
    (h : Segmented (String.utf8EncodeChar c ++ octets) found) :
    ∃ others, found = .character c :: others ∧ Segmented octets others := by
  generalize hall : String.utf8EncodeChar c ++ octets = all at h
  cases h with
  | nil => exact absurd (List.append_eq_nil_iff.1 hall).1 String.utf8EncodeChar_ne_nil
  | character d hrest =>
      have hc : String.utf8EncodeChar c <+: String.utf8EncodeChar d ++ _ := ⟨octets, hall⟩
      obtain rfl : c = d := by
        rcases List.prefix_or_prefix_of_prefix hc (List.prefix_append _ _) with h | h
        · exact eq_of_prefix_utf8EncodeChar h
        · exact (eq_of_prefix_utf8EncodeChar h).symm
      obtain rfl := List.append_cancel_left hall
      exact ⟨_, rfl, hrest⟩
  | illFormed hpart hrest => exact absurd ⟨octets, hall⟩ (hpart.not_character c)

/-- Where an ill-formed part stands, it is the first segment. -/
lemma of_illFormed {part rest : Octets} {found : List Segment} (hpart : IsIllFormed part rest)
    (h : Segmented (part ++ rest) found) :
    ∃ others, found = .illFormed part :: others ∧ Segmented rest others := by
  -- each of two ill-formed parts at one place is at least as long as the other
  have hle : ∀ {a b c d : Octets}, a ++ b = c ++ d → IsIllFormed a b → IsIllFormed c d →
      c.length ≤ a.length := by
    intro a b c d heq ha hc
    rcases hc.begins_or_single with ⟨-, hbegins⟩ | ⟨octet, rfl⟩
    · exact ha.longest c (heq ▸ List.prefix_append c d) hbegins
    · exact ha.length_pos
  generalize hall : part ++ rest = all at h
  cases h with
  | nil =>
      have hnil : part = [] := (List.append_eq_nil_iff.1 hall).1
      exact absurd hpart.length_pos (by simp [hnil])
  | character c hrest => exact absurd ⟨_, hall.symm⟩ (hpart.not_character c)
  | illFormed hother hrest =>
      have hlen := Nat.le_antisymm (hle hall.symm hother hpart) (hle hall hpart hother)
      obtain ⟨rfl, rfl⟩ := List.append_inj hall hlen
      exact ⟨_, rfl, hrest⟩

lemma eq {octets : Octets} {found others : List Segment} (h : Segmented octets found)
    (hothers : Segmented octets others) : found = others := by
  induction h generalizing others with
  | nil =>
      generalize hnil : ([] : Octets) = octets at hothers
      cases hothers with
      | nil => rfl
      | character c _ =>
          exact absurd (List.append_eq_nil_iff.1 hnil.symm).1 String.utf8EncodeChar_ne_nil
      | illFormed hpart _ =>
          exact absurd hpart.length_pos (by simp [(List.append_eq_nil_iff.1 hnil.symm).1])
  | character c _ ih =>
      obtain ⟨rest, rfl, hrest⟩ := hothers.of_character
      rw [ih hrest]
  | illFormed hpart _ ih =>
      obtain ⟨rest, rfl, hrest⟩ := hothers.of_illFormed hpart
      rw [ih hrest]

lemma flatMap_octets {octets : Octets} {found : List Segment} (h : Segmented octets found) :
    found.flatMap Segment.octets = octets := by
  induction h with
  | nil => rfl
  | character c _ ih => simp [Segment.octets, ih]
  | illFormed _ _ ih => simp [Segment.octets, ih]

end Segmented

/-! ## The machine

The invariant is about the octets that are still to be read together with the unfinished ones:
whatever has been found stays, and what will be found are the segments of the two together.
-/

/-- A state with nothing unfinished, or with the beginning of a character. -/
def Scan.Resumable (part : Octets) : Prop :=
  part = [] ∨ reading part = .beginning

/-- From every such state, the rest of the octets is segmented. -/
def Resumes (octets : Octets) : Prop :=
  ∀ (found : List Segment) (part : Octets), Scan.Resumable part →
    ∃ segs, Segmented (part ++ octets) segs ∧
      (octets.foldl Scan.step ⟨found, part⟩).finish = found.reverse ++ segs

lemma Resumes.start {octets : Octets} (h : Resumes octets) (found : List Segment) (octet : UInt8) :
    ∃ segs, Segmented (octet :: octets) segs ∧
      (octets.foldl Scan.step (Scan.start found octet)).finish = found.reverse ++ segs := by
  unfold Scan.start
  cases hread : reading [octet] with
  | character c =>
      obtain ⟨segs, hsegs, hfold⟩ := h (.character c :: found) [] (Or.inl rfl)
      have hoctet : octet :: octets = String.utf8EncodeChar c ++ octets := by
        rw [reading_eq_character_iff.1 hread]
        rfl
      refine ⟨.character c :: segs, hoctet ▸ hsegs.character c, ?_⟩
      simpa using hfold
  | beginning => exact h found [octet] (Or.inr hread)
  | neither =>
      obtain ⟨segs, hsegs, hfold⟩ := h (.illFormed [octet] :: found) [] (Or.inl rfl)
      refine ⟨.illFormed [octet] :: segs, .illFormed (isIllFormed_singleton hread octets) hsegs, ?_⟩
      simpa using hfold

theorem resumes (octets : Octets) : Resumes octets := by
  induction octets with
  | nil =>
      rintro found part (rfl | hpart)
      · exact ⟨[], .nil, by simp [Scan.finish]⟩
      · have hne := (reading_eq_beginning_iff.1 hpart).1
        obtain ⟨first, part, rfl⟩ := List.exists_cons_of_ne_nil hne
        have hill : IsIllFormed (first :: part) [] := isIllFormed_of_beginning hpart (by simp)
        exact ⟨[.illFormed (first :: part)], .illFormed hill .nil, by simp [Scan.finish]⟩
  | cons octet octets ih =>
      rintro found part (rfl | hpart)
      · exact ih.start found octet
      · have hne := (reading_eq_beginning_iff.1 hpart).1
        have hassoc : part ++ octet :: octets = part ++ [octet] ++ octets := by simp
        obtain ⟨first, part, rfl⟩ := List.exists_cons_of_ne_nil hne
        rw [List.foldl_cons, Scan.step]
        simp only []
        cases hread : reading (first :: part ++ [octet]) with
        | character c =>
            obtain ⟨segs, hsegs, hfold⟩ := ih (.character c :: found) [] (Or.inl rfl)
            rw [hassoc, ← reading_eq_character_iff.1 hread]
            refine ⟨.character c :: segs, hsegs.character c, ?_⟩
            simpa using hfold
        | beginning =>
            rw [hassoc]
            exact ih found _ (Or.inr hread)
        | neither =>
            obtain ⟨segs, hsegs, hfold⟩ := ih.start (.illFormed (first :: part) :: found) octet
            have hill : IsIllFormed (first :: part) (octet :: octets) := by
              refine isIllFormed_of_beginning hpart fun next hnext => ?_
              obtain rfl : octet = next := by simpa using hnext
              exact hread
            refine ⟨.illFormed (first :: part) :: segs, .illFormed hill hsegs, ?_⟩
            simpa using hfold

/-- **What `segments` finds is what the description fits.** -/
theorem segments_eq_iff {octets : Octets} {found : List Segment} :
    segments octets = found ↔ Segmented octets found := by
  obtain ⟨segs, hsegs, hfold⟩ := resumes octets [] [] (Or.inl rfl)
  have hsegments : segments octets = segs := hfold
  rw [hsegments]
  constructor
  · rintro rfl
    exact hsegs
  · exact hsegs.eq

lemma segmented_segments (octets : Octets) : Segmented octets (segments octets) :=
  segments_eq_iff.1 rfl

@[simp] lemma segments_nil : segments [] = [] := rfl

theorem segments_encode_append (text : Text) (rest : Octets) :
    segments (Text.encode text ++ rest) = text.map Segment.character ++ segments rest := by
  rw [segments_eq_iff]
  induction text with
  | nil => exact segmented_segments rest
  | cons c text ih =>
      rw [Text.encode_cons, List.append_assoc]
      exact ih.character c

theorem segments_illFormed_append {part rest : Octets} (h : IsIllFormed part rest) :
    segments (part ++ rest) = .illFormed part :: segments rest :=
  segments_eq_iff.2 (.illFormed h (segmented_segments rest))

/-! ## The views -/

@[simp] lemma mapM_character? (text : Text) :
    (text.map Segment.character).mapM Segment.character? = some text := by
  induction text with
  | nil => rfl
  | cons c text ih => simp [Segment.character?, ih]

lemma eq_map_character_of_mapM {found : List Segment} {text : Text}
    (h : found.mapM Segment.character? = some text) : found = text.map Segment.character := by
  induction found generalizing text with
  | nil =>
      obtain rfl : text = [] := by simpa using h.symm
      rfl
  | cons segment found ih =>
      rw [List.mapM_cons] at h
      cases segment with
      | character c =>
          obtain ⟨rest, hrest, rfl⟩ : ∃ rest, found.mapM Segment.character? = some rest ∧
              c :: rest = text := by
            simpa [Segment.character?, Option.bind_eq_some_iff] using h
          rw [ih hrest]
          rfl
      | illFormed octets => simp [Segment.character?] at h

/-- **The strict reading is the inverse of the encoding.** -/
theorem decode?_eq_some_iff {octets : Octets} {text : Text} :
    decode? octets = some text ↔ Text.encode text = octets := by
  constructor
  · intro h
    have hcover := (segmented_segments octets).flatMap_octets
    rw [eq_map_character_of_mapM h] at hcover
    rw [← hcover]
    simp [Text.encode, List.flatMap_map, Segment.octets]
  · rintro rfl
    have hsegments := segments_encode_append text []
    rw [List.append_nil, segments_nil, List.append_nil] at hsegments
    rw [decode?, hsegments, mapM_character?]

/-- Different texts have different encodings. -/
theorem encode_injective : Function.Injective Text.encode := by
  intro text other h
  have hdecode : decode? (Text.encode other) = some text := decode?_eq_some_iff.2 h
  rw [decode?_eq_some_iff.2 rfl] at hdecode
  exact (Option.some.inj hdecode).symm

lemma decode?_eq_none_iff {octets : Octets} :
    decode? octets = none ↔ ¬ ∃ text, Text.encode text = octets := by
  rw [Option.eq_none_iff_forall_ne_some, not_exists]
  simp only [Ne, decode?_eq_some_iff]

@[simp] lemma wellFormedHead_nil : wellFormedHead [] = [] := rfl

lemma wellFormedHead_encode_append (text : Text) (rest : Octets) :
    wellFormedHead (Text.encode text ++ rest) = text ++ wellFormedHead rest := by
  rw [wellFormedHead, segments_encode_append]
  induction text with
  | nil => rfl
  | cons c text ih =>
      simp only [List.map_cons, List.cons_append, List.takeWhile_cons, Segment.character?,
        Option.isSome_some, if_true, List.filterMap_cons] at ih ⊢
      rw [ih]

lemma wellFormedHead_encode (text : Text) : wellFormedHead (Text.encode text) = text := by
  have hhead := wellFormedHead_encode_append text []
  rwa [List.append_nil, wellFormedHead_nil, List.append_nil] at hhead

lemma wellFormedHead_illFormed_append {part rest : Octets} (h : IsIllFormed part rest) :
    wellFormedHead (part ++ rest) = [] := by
  simp [wellFormedHead, segments_illFormed_append h, Segment.character?]

/-- Octets that encode no text are a text and then an ill-formed part. -/
theorem exists_illFormed {octets : Octets} (h : decode? octets = none) :
    ∃ head part rest, octets = Text.encode head ++ (part ++ rest) ∧ IsIllFormed part rest := by
  have hnone : ∀ text, Text.encode text ≠ octets := fun text htext => by
    rw [decode?_eq_some_iff.2 htext] at h
    cases h
  have hsegs := segmented_segments octets
  generalize segments octets = found at hsegs
  clear h
  induction hsegs with
  | nil => exact absurd rfl (hnone [])
  | @character c octets found _ ih =>
      obtain ⟨head, part, rest, rfl, hpart⟩ := ih fun text htext =>
        hnone (c :: text) (by rw [Text.encode_cons, htext])
      exact ⟨c :: head, part, rest, by simp, hpart⟩
  | @illFormed part octets found hpart _ _ => exact ⟨[], part, octets, rfl, hpart⟩

end LogSieve.Utf8
