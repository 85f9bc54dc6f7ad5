import LogSieve.Text.Basic

/-!
# Lines

A text falls into lines at ten characters.  CR followed by LF is *one* ending, and that pair is the
only thing that makes cutting a text more than cutting at single characters.  So the cut is taken
in two steps, each a fold from the right over the characters:

* `unifyEndings` — writes each CR LF as a lone CR.  Afterwards every terminator stands for itself.
* `Line.split` — the lines of a text.  The ending of the last line is optional: a text that ends
  in a terminator has no empty line after it, and the empty text has no lines at all.

`Line.split_cons` is the equation that everything later rests on: it reads the text character by
character, and it is the only place where the two steps are looked at together.

* `Line.join` — lines with LF between them and nothing after the last.
* `Line.close` — lines with LF after each.
* `Line.numberAfter` — the number, counted from 1, of the line on which the text continues.
-/

namespace LogSieve

/-- A line without its ending. -/
abbrev Line := Text

namespace Line

/-! ## Terminators -/

/-- The characters that end a line: line feed, carriage return, the vertical and form feeds, the
three information separators of ASCII, next line, and the line and paragraph separators. -/
def terminators : List Char :=
  ['\n', '\r', '\x0b', '\x0c', '\x1c', '\x1d', '\x1e', '\u0085', '\u2028', '\u2029']

def isTerminator (c : Char) : Bool :=
  terminators.contains c

def dropLineFeed : Text → Text
  | '\n' :: rest => rest
  | text => text

/-- What follows an ending whose first character is `c`: after a carriage return a line feed still
belongs to the ending. -/
def afterEnding (c : Char) (rest : Text) : Text :=
  if c = '\r' then dropLineFeed rest else rest

theorem length_dropLineFeed_le (text : Text) : (dropLineFeed text).length ≤ text.length := by
  unfold dropLineFeed
  split <;> simp

theorem length_afterEnding_le (c : Char) (rest : Text) :
    (afterEnding c rest).length ≤ rest.length := by
  unfold afterEnding
  split
  · exact length_dropLineFeed_le rest
  · exact Nat.le_refl _

/-! ## Splitting -/

/-- Writes every CR LF as a carriage return alone. -/
def unifyEndings (text : Text) : Text :=
  text.foldr (fun c rest => c :: afterEnding c rest) []

/-- Puts a character in front of the first line, or opens a line with it. -/
def extendFirst (c : Char) : List Line → List Line
  | [] => [[c]]
  | line :: lines => (c :: line) :: lines

/-- The lines of a text in which every terminator is an ending of its own. -/
def splitUnified (text : Text) : List Line :=
  text.foldr (fun c lines => if isTerminator c then [] :: lines else extendFirst c lines) []

/-- The lines of a text, endings left out. -/
def split (text : Text) : List Line :=
  splitUnified (unifyEndings text)

@[simp] theorem unifyEndings_nil : unifyEndings [] = [] := rfl

/-- Dropping the line feed of a pair before or after unifying the rest comes to the same, since
unifying never changes the first character. -/
theorem afterEnding_unifyEndings (c : Char) (rest : Text) :
    afterEnding c (unifyEndings rest) = unifyEndings (afterEnding c rest) := by
  unfold afterEnding
  split
  · cases rest with
    | nil => rfl
    | cons d rest =>
      by_cases hd : d = '\n'
      · subst hd
        simp [unifyEndings, dropLineFeed, afterEnding]
      · have h : ∀ r : Text, dropLineFeed (d :: r) = d :: r := by
          intro r
          unfold dropLineFeed
          split
          · next heq => exact absurd (List.cons.inj heq).1 hd
          · rfl
        rw [h]
        exact h _
  · rfl

theorem unifyEndings_cons (c : Char) (rest : Text) :
    unifyEndings (c :: rest) = c :: unifyEndings (afterEnding c rest) := by
  rw [← afterEnding_unifyEndings]
  rfl

@[simp] theorem split_nil : split [] = [] := rfl

/-- The lines of a text, read off its first character.  A terminator closes an empty line and takes
the rest of its ending with it; any other character belongs to the first line. -/
theorem split_cons (c : Char) (rest : Text) :
    split (c :: rest) =
      if isTerminator c then [] :: split (afterEnding c rest) else extendFirst c (split rest) := by
  rw [split, unifyEndings_cons]
  by_cases hc : isTerminator c
  · simp [splitUnified, split, hc]
  · have hr : c ≠ '\r' := fun h => hc (h ▸ by decide)
    simp [splitUnified, split, hc, afterEnding, hr]

theorem split_eq_nil_iff (text : Text) : split text = [] ↔ text = [] := by
  cases text with
  | nil => simp
  | cons c rest =>
    rw [split_cons]
    split
    · simp
    · cases split rest <;> simp [extendFirst]

/-! ## Joining and counting -/

/-- Lines with a line feed between neighbours.  Nothing follows the last line. -/
def join (lines : List Line) : Text :=
  ['\n'].intercalate lines

/-- Lines with a line feed after each. -/
def close (lines : List Line) : Text :=
  lines.flatMap (· ++ ['\n'])

@[simp] theorem join_nil : join [] = [] := rfl

@[simp] theorem join_singleton (line : Line) : join [line] = line := by
  simp [join]

/-- Joining puts one line feed between the first line and the rest. -/
theorem join_cons_cons (first second : Line) (lines : List Line) :
    join (first :: second :: lines) = first ++ '\n' :: join (second :: lines) := by
  simp [join, List.intercalate, List.intersperse]

/-- A line feed after every line is one between neighbours and one after the last. -/
theorem close_eq_join_append {lines : List Line} (h : lines ≠ []) :
    close lines = join lines ++ ['\n'] := by
  induction lines with
  | nil => exact absurd rfl h
  | cons first rest ih =>
    cases rest with
    | nil => simp [close]
    | cons second rest =>
      have htail := ih (List.cons_ne_nil second rest)
      rw [join_cons_cons]
      simp only [close, List.flatMap_cons] at htail ⊢
      simp [htail]

/-- The number, from 1, of the line on which the text right after `head` stands. -/
def numberAfter (head : Text) : Nat :=
  match head.getLast? with
  | none => 1
  | some c => if isTerminator c then (split head).length + 1 else (split head).length

end Line

end LogSieve
