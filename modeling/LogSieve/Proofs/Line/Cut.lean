import LogSieve.Line.Cursor
import Mathlib.Data.List.TakeWhile
import Mathlib.Tactic.Common

/-!
# The one way to cut a text into lines

`Line.split` is a fold and a cursor is a machine.  Both are held here to a grammar that mentions
neither: a text is its lines with their endings between them, an ending is a terminator or the pair
CR LF, only the last line may go without, and a lone CR never stands in front of LF.

* `Line.linewise` — induction over a text line by line.  Nearly every later fact about lines is
  proved with it, and `split_append_ending` is the equation that it needs.
* `IsCut` — the grammar, on *pieces*: a line and its ending.
* `IsCut.next?_eq` — a cursor in front of a cut takes its first piece.  This gives uniqueness, and
  `Cursor.remaining_eq_split` says that the cursor and the fold agree.
* **`existsUnique_isCut`** — every text has exactly one cut, and the lines of it are the lines of
  the text.
-/

namespace LogSieve

namespace Line

/-! ## Plain texts and endings -/

/-- A text in which no character ends a line. -/
def Plain (text : Text) : Prop :=
  ∀ c ∈ text, isTerminator c = false

instance (text : Text) : Decidable (Plain text) :=
  List.decidableBAll (fun c => isTerminator c = false) text

/-- One terminator, or the pair CR LF. -/
def IsEnding (ending : Text) : Prop :=
  (∃ c, isTerminator c = true ∧ ending = [c]) ∨ ending = ['\r', '\n']

/-- An ending that is complete when `rest` follows.  The two halves of a pair are no endings of
their own, so a lone CR is complete only if no LF follows. -/
def EndsBefore (ending rest : Text) : Prop :=
  IsEnding ending ∧ (ending = ['\r'] → rest.head? ≠ some '\n')

@[simp] lemma plain_nil : Plain [] := by simp [Plain]

@[simp] lemma plain_cons {c : Char} {text : Text} :
    Plain (c :: text) ↔ isTerminator c = false ∧ Plain text := by
  simp [Plain]

@[simp] lemma plain_append {front back : Text} :
    Plain (front ++ back) ↔ Plain front ∧ Plain back :=
  List.forall_mem_append

lemma IsEnding.ne_nil {ending : Text} (h : IsEnding ending) : ending ≠ [] := by
  rcases h with ⟨c, -, rfl⟩ | rfl <;> simp

lemma afterEnding_of_head?_ne {c : Char} {rest : Text} (h : c = '\r' → rest.head? ≠ some '\n') :
    afterEnding c rest = rest := by
  unfold afterEnding
  split_ifs with hc
  · cases rest with
    | nil => rfl
    | cons d rest =>
        have hd : d ≠ '\n' := by simpa using h hc
        unfold dropLineFeed
        split
        · next heq => exact absurd (List.cons.inj heq).1 hd
        · rfl
  · rfl

/-- An ending and what follows it, read as `split` reads them: from the first character, leaving out
what still belongs to the ending. -/
lemma EndsBefore.exists_cons {ending rest : Text} (h : EndsBefore ending rest) :
    ∃ c after, isTerminator c = true ∧ ending ++ rest = c :: after ∧ afterEnding c after = rest := by
  obtain ⟨⟨c, hc, rfl⟩ | rfl, hpair⟩ := h
  · refine ⟨c, rest, hc, rfl, afterEnding_of_head?_ne fun hcr => ?_⟩
    exact hpair (by rw [hcr])
  · exact ⟨'\r', '\n' :: rest, by decide, rfl, rfl⟩

lemma exists_endsBefore {c : Char} (hc : isTerminator c = true) (after : Text) :
    ∃ ending, EndsBefore ending (afterEnding c after) ∧
      ending ++ afterEnding c after = c :: after := by
  by_cases hpair : c = '\r' ∧ after.head? = some '\n'
  · obtain ⟨rfl, hhead⟩ := hpair
    obtain ⟨rest, rfl⟩ : ∃ rest, after = '\n' :: rest := List.head?_eq_some_iff.1 hhead
    exact ⟨['\r', '\n'], ⟨Or.inr rfl, by simp⟩, rfl⟩
  · have hne : c = '\r' → after.head? ≠ some '\n' := fun hcr hhead => hpair ⟨hcr, hhead⟩
    rw [afterEnding_of_head?_ne hne]
    exact ⟨[c], ⟨Or.inl ⟨c, hc, rfl⟩, fun h => hne (by simpa using h)⟩, rfl⟩

/-! ## Line by line -/

lemma eq_nil_or_plain_or_ended (text : Text) :
    text = [] ∨ (text ≠ [] ∧ Plain text) ∨
      ∃ line ending rest, text = line ++ ending ++ rest ∧ Plain line ∧ EndsBefore ending rest := by
  induction text with
  | nil => exact Or.inl rfl
  | cons c text ih =>
      right
      by_cases hc : isTerminator c = true
      · obtain ⟨ending, hending, heq⟩ := exists_endsBefore hc text
        exact Or.inr ⟨[], ending, afterEnding c text, by simp [heq], plain_nil, hending⟩
      · rw [Bool.not_eq_true] at hc
        rcases ih with rfl | ⟨-, htext⟩ | ⟨line, ending, rest, rfl, hline, hending⟩
        · exact Or.inl ⟨by simp, by simp [hc]⟩
        · exact Or.inl ⟨by simp, plain_cons.2 ⟨hc, htext⟩⟩
        · exact Or.inr ⟨c :: line, ending, rest, rfl, plain_cons.2 ⟨hc, hline⟩, hending⟩

/-- **Induction line by line.**  The three cases are those of the grammar, so no proof that uses
this has to look at a single character of a line. -/
@[elab_as_elim]
theorem linewise {motive : Text → Prop} (text : Text) (empty : motive [])
    (last : ∀ line, line ≠ [] → Plain line → motive line)
    (ended : ∀ line ending rest, Plain line → EndsBefore ending rest → motive rest →
      motive (line ++ ending ++ rest)) : motive text := by
  induction hn : text.length using Nat.strongRecOn generalizing text with
  | _ n ih =>
      rcases eq_nil_or_plain_or_ended text with
        rfl | ⟨hne, htext⟩ | ⟨line, ending, rest, rfl, hline, hending⟩
      · exact empty
      · exact last text hne htext
      · have hpos : 0 < ending.length := List.length_pos_iff.2 hending.1.ne_nil
        have hlt : rest.length < n := by
          rw [← hn]
          simp only [List.length_append]
          omega
        exact ended line ending rest hline hending (ih rest.length hlt rest rfl)

/-- A line with its ending comes off the front as a whole. -/
theorem split_append_ending {line ending rest : Text} (hline : Plain line)
    (hending : EndsBefore ending rest) : split (line ++ ending ++ rest) = line :: split rest := by
  obtain ⟨c, after, hc, heq, hafter⟩ := hending.exists_cons
  rw [List.append_assoc, heq]
  clear heq
  induction line with
  | nil => simp [split_cons, hc, hafter]
  | cons d line ih =>
      obtain ⟨hd, hline⟩ := plain_cons.1 hline
      rw [List.cons_append, split_cons, hd, ih hline]
      rfl

theorem split_of_plain {line : Text} (hne : line ≠ []) (hline : Plain line) :
    split line = [line] := by
  induction line with
  | nil => exact absurd rfl hne
  | cons c line ih =>
      obtain ⟨hc, hline⟩ := plain_cons.1 hline
      rw [split_cons, hc]
      cases line with
      | nil => rfl
      | cons d line =>
          rw [ih (List.cons_ne_nil d line) hline]
          rfl

lemma split_ne_nil {text : Text} (h : text ≠ []) : split text ≠ [] :=
  fun hsplit => h ((split_eq_nil_iff text).1 hsplit)

theorem plain_of_mem_split {text : Text} {line : Line} (h : line ∈ split text) : Plain line := by
  induction text using linewise with
  | empty => simp at h
  | last text hne htext =>
      rw [split_of_plain hne htext, List.mem_singleton] at h
      rwa [h]
  | ended first ending rest hfirst hending ih =>
      rw [split_append_ending hfirst hending, List.mem_cons] at h
      rcases h with rfl | h
      · exact hfirst
      · exact ih h

end Line

/-! ## Cuts -/

/-- A line of a text together with what ends it there. -/
@[ext]
structure Piece where
  line : Line
  ending : Text
  deriving DecidableEq, Repr

namespace Piece

/-- The text that a piece takes up. -/
def text (piece : Piece) : Text :=
  piece.line ++ piece.ending

/-- The text that pieces make up one after the other. -/
def glue (pieces : List Piece) : Text :=
  pieces.flatMap Piece.text

@[simp] lemma glue_nil : glue [] = [] := rfl

@[simp] lemma glue_cons (piece : Piece) (pieces : List Piece) :
    glue (piece :: pieces) = piece.line ++ piece.ending ++ glue pieces := rfl

end Piece

open Line Piece

/-- Pieces that are the lines of the text they make up, each with its ending. -/
structure IsCut (pieces : List Piece) : Prop where
  /-- No line holds a terminator. -/
  plain : ∀ piece ∈ pieces, Plain piece.line
  /-- Every line has an ending.  Only the last may go without, and then it is not empty. -/
  ending : ∀ before piece after, pieces = before ++ piece :: after →
    IsEnding piece.ending ∨ (after = [] ∧ piece.ending = [] ∧ piece.line ≠ [])
  /-- No lone CR is followed by LF. -/
  pair : ∀ before piece after, pieces = before ++ piece :: after →
    piece.ending = ['\r'] → (glue after).head? ≠ some '\n'

namespace IsCut

lemma nil : IsCut [] := ⟨by simp, by simp, by simp⟩

lemma tail {piece : Piece} {pieces : List Piece} (h : IsCut (piece :: pieces)) : IsCut pieces where
  plain p hp := h.plain p (List.mem_cons_of_mem _ hp)
  ending before p after heq := h.ending (piece :: before) p after (by rw [heq]; rfl)
  pair before p after heq := h.pair (piece :: before) p after (by rw [heq]; rfl)

lemma endsBefore_or {piece : Piece} {pieces : List Piece} (h : IsCut (piece :: pieces)) :
    EndsBefore piece.ending (glue pieces) ∨
      (pieces = [] ∧ piece.ending = [] ∧ piece.line ≠ []) :=
  (h.ending [] piece pieces rfl).imp_left fun hending => ⟨hending, h.pair [] piece pieces rfl⟩

lemma cons {piece : Piece} {pieces : List Piece} (hline : Plain piece.line)
    (hending : EndsBefore piece.ending (glue pieces)) (h : IsCut pieces) :
    IsCut (piece :: pieces) where
  plain p hp := by
    rcases List.mem_cons.1 hp with rfl | hp
    · exact hline
    · exact h.plain p hp
  ending before p after heq := by
    cases before with
    | nil =>
        obtain ⟨rfl, rfl⟩ := List.cons.inj heq
        exact Or.inl hending.1
    | cons q before => exact h.ending before p after (List.cons.inj heq).2
  pair before p after heq := by
    cases before with
    | nil =>
        obtain ⟨rfl, rfl⟩ := List.cons.inj heq
        exact hending.2
    | cons q before => exact h.pair before p after (List.cons.inj heq).2

lemma singleton {line : Line} (hne : line ≠ []) (hline : Plain line) : IsCut [⟨line, []⟩] where
  plain p hp := by
    rw [List.mem_singleton.1 hp]
    exact hline
  ending before p after heq := by
    obtain ⟨rfl, hp⟩ | ⟨rfl, hp⟩ := List.append_eq_singleton_iff.1 heq.symm
    · obtain ⟨rfl, rfl⟩ := List.cons.inj hp
      exact Or.inr ⟨rfl, rfl, hne⟩
    · exact absurd hp (List.cons_ne_nil p after)
  pair before p after heq hp := by
    have hmem : p ∈ [(⟨line, []⟩ : Piece)] := heq ▸ List.mem_append_right _ List.mem_cons_self
    rw [List.mem_singleton.1 hmem] at hp
    exact absurd hp (by simp)

theorem exists_glue_eq (text : Text) : ∃ pieces, glue pieces = text ∧ IsCut pieces := by
  induction text using linewise with
  | empty => exact ⟨[], rfl, nil⟩
  | last line hne hline => exact ⟨[⟨line, []⟩], by simp, singleton hne hline⟩
  | ended line ending rest hline hending ih =>
      obtain ⟨pieces, rfl, hcut⟩ := ih
      exact ⟨⟨line, ending⟩ :: pieces, rfl, cons hline hending hcut⟩

theorem split_glue {pieces : List Piece} (h : IsCut pieces) :
    split (glue pieces) = pieces.map Piece.line := by
  induction pieces with
  | nil => rfl
  | cons piece pieces ih =>
      have hline : Plain piece.line := h.plain piece List.mem_cons_self
      rcases h.endsBefore_or with hending | ⟨rfl, hnone, hne⟩
      · rw [glue_cons, split_append_ending hline hending, ih h.tail]
        rfl
      · simp [hnone, split_of_plain hne hline]

/-- **A cursor takes the first piece.**  What it returns is the line, and what it leaves is the text
of the other pieces, so the pieces can be read off the cursor one by one. -/
theorem next?_eq {piece : Piece} {pieces : List Piece} (h : IsCut (piece :: pieces)) :
    Cursor.next? ⟨glue (piece :: pieces)⟩ = some (piece.line, ⟨glue pieces⟩) := by
  have hline : ∀ c ∈ piece.line, (!isTerminator c) = true := fun c hc => by
    simp [h.plain piece List.mem_cons_self c hc]
  rcases h.endsBefore_or with hending | ⟨rfl, hnone, hne⟩
  · obtain ⟨c, after, hc, heq, hafter⟩ := hending.exists_cons
    rw [glue_cons, List.append_assoc, heq]
    simp [Cursor.next?, Cursor.dropEnding, List.takeWhile_append_of_pos hline,
      List.dropWhile_append_of_pos hline, hc, hafter]
  · have htake : piece.line.takeWhile (fun c => !isTerminator c) = piece.line :=
      List.takeWhile_eq_self_iff.2 hline
    have hdrop : piece.line.dropWhile (fun c => !isTerminator c) = [] :=
      List.dropWhile_eq_nil_iff.2 hline
    simp [Cursor.next?, Cursor.dropEnding, hnone, hne, htake, hdrop]

theorem eq_of_glue_eq {pieces others : List Piece} (h : IsCut pieces) (hothers : IsCut others)
    (heq : glue pieces = glue others) : pieces = others := by
  induction pieces generalizing others with
  | nil =>
      cases others with
      | nil => rfl
      | cons other others =>
          have hnext := hothers.next?_eq
          rw [← heq] at hnext
          exact absurd hnext (by simp [Cursor.next?])
  | cons piece pieces ih =>
      have hnext := h.next?_eq
      cases others with
      | nil =>
          rw [heq] at hnext
          exact absurd hnext (by simp [Cursor.next?])
      | cons other others =>
          rw [heq, hothers.next?_eq] at hnext
          obtain ⟨hline, hrest⟩ : other.line = piece.line ∧ glue others = glue pieces := by
            simpa using hnext
          have hending : piece.ending = other.ending := by
            simpa [hline, hrest] using heq
          rw [ih h.tail hothers.tail hrest.symm, Piece.ext hline.symm hending]

end IsCut

/-- The cursor walks over the lines that the fold finds. -/
theorem Cursor.remaining_eq_split (content : Text) :
    (Cursor.ofText content).remaining = split content := by
  obtain ⟨pieces, rfl, hcut⟩ := IsCut.exists_glue_eq content
  rw [hcut.split_glue]
  induction pieces with
  | nil => rw [Cursor.ofText, glue_nil, Cursor.remaining]; rfl
  | cons piece pieces ih =>
      have hnext : (Cursor.ofText (glue (piece :: pieces))).next?
          = some (piece.line, Cursor.ofText (glue pieces)) := hcut.next?_eq
      rw [Cursor.remaining]
      split
      · next h => rw [hnext] at h; cases h
      · next line after h =>
          rw [hnext] at h
          cases h
          rw [ih hcut.tail]
          rfl

/-- **The grammar of lines.**  Every text has exactly one cut.  The lines of that cut, and no other
list, are the lines that `split` finds and that a cursor walks over; only the empty text has none. -/
theorem existsUnique_isCut (content : Text) :
    (∃! pieces, glue pieces = content ∧ IsCut pieces) ∧
      (∀ lines, (∃ pieces, glue pieces = content ∧ IsCut pieces ∧ pieces.map Piece.line = lines) ↔
        lines = split content) ∧
      (Cursor.ofText content).remaining = split content ∧
      ((split content).length = 0 ↔ content = []) := by
  obtain ⟨pieces, hglue, hcut⟩ := IsCut.exists_glue_eq content
  refine ⟨⟨pieces, ⟨hglue, hcut⟩, ?_⟩, fun lines => ⟨?_, ?_⟩, Cursor.remaining_eq_split content, ?_⟩
  · rintro others ⟨hothers, hcut'⟩
    exact hcut'.eq_of_glue_eq hcut (hothers.trans hglue.symm)
  · rintro ⟨others, rfl, hcut', rfl⟩
    exact hcut'.split_glue.symm
  · rintro rfl
    exact ⟨pieces, hglue, hcut, by rw [← hcut.split_glue, hglue]⟩
  · rw [List.length_eq_zero_iff, split_eq_nil_iff]

end LogSieve
