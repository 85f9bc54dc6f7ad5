import LogSieve.Proofs.Selection.Spacing

/-!
# Selecting is searching

A selection cuts a text into lines and keeps some of them.  The same lines are found without any
cutting: look for the marker at the places where a line may begin, which are the beginning of the
text and the places right after a terminator, and read on to the next terminator.

The two differ in where they look.  Between CR and LF there is such a place but no line begins, and
an empty line begins where the search finds nothing; neither matters, because no marker begins with
a terminator.

* `Tag.search` — the search, by positions.
* `Tag.searchFrom` — the same by recursion on the text, with a flag for "a line may begin here".
* **`select_eq_search`** — selecting and searching agree for every tag without a terminator.
-/

namespace LogSieve

open Line

/-! ## The search -/

/-- Whether a place in a text is its beginning or stands right after a terminator. -/
def mayBegin (text : Text) : Nat → Bool
  | 0 => true
  | i + 1 => text[i]?.any isTerminator

/-- The text from a place up to the next terminator or to the end. -/
def upToTerminator (text : Text) (i : Nat) : Text :=
  (text.drop i).takeWhile fun c => !isTerminator c

/-- Whether the marker stands at a place where a line may begin. -/
def Tag.standsAt (tag : Tag) (text : Text) (i : Nat) : Bool :=
  mayBegin text i && tag.marker.isPrefixOf (text.drop i)

/-- What stands, up to the next terminator, at each place where the marker does; from the front to
the back of the text. -/
def Tag.search (tag : Tag) (text : Text) : List Text :=
  ((List.range text.length).filter (tag.standsAt text)).map (upToTerminator text)

/-! ## The search by recursion

After the first character the search goes on in a shorter text, and whether a line may begin there
is no longer known from that text.  So the recursion carries the answer along.
-/

/-- The search, where `first` says whether a line may begin at the first place. -/
def Tag.searchFrom (tag : Tag) : (first : Bool) → Text → List Text
  | _, [] => []
  | first, c :: rest =>
      (if first && tag.marker.isPrefixOf (c :: rest) then [upToTerminator (c :: rest) 0] else []) ++
        tag.searchFrom (isTerminator c) rest

/-- A place of a text keeps its answer if a terminator is put in front of the text. -/
lemma mayBegin_cons {c : Char} (hc : isTerminator c = true) (text : Text) (i : Nat) :
    mayBegin (c :: text) (i + 1) = mayBegin text i := by
  cases i <;> simp [mayBegin, hc]

/-- Reading the positions one after the other is the recursion.  The text is taken together with the
character in front of it, which decides about the first place. -/
lemma map_filter_range_eq_searchFrom (tag : Tag) (before : Char) (text : Text) :
    ((List.range text.length).filter fun i =>
        mayBegin (before :: text) (i + 1) && tag.marker.isPrefixOf (text.drop i)).map
          (upToTerminator text)
      = tag.searchFrom (isTerminator before) text := by
  induction text generalizing before with
  | nil => rfl
  | cons c rest ih =>
      have hshift : upToTerminator (c :: rest) ∘ Nat.succ = upToTerminator rest := by
        funext i
        simp [upToTerminator]
      have hrest : ((List.range rest.length).map Nat.succ).filter (fun i =>
            mayBegin (before :: c :: rest) (i + 1) && tag.marker.isPrefixOf ((c :: rest).drop i))
          = ((List.range rest.length).filter fun i =>
              mayBegin (c :: rest) (i + 1) && tag.marker.isPrefixOf (rest.drop i)).map Nat.succ := by
        rw [List.filter_map]
        rfl
      have hfirst : mayBegin (before :: c :: rest) (0 + 1) = isTerminator before := rfl
      rw [List.length_cons, List.range_succ_eq_map, List.filter_cons, hrest, hfirst, List.drop_zero,
        Tag.searchFrom, ← ih c]
      split_ifs <;> simp [hshift]

lemma search_eq_searchFrom (tag : Tag) (text : Text) :
    tag.search text = tag.searchFrom true text := by
  have hfront : isTerminator '\n' = true := by decide
  rw [← hfront, ← map_filter_range_eq_searchFrom]
  simp only [mayBegin_cons hfront]
  rfl

/-! ## Lines and the marker -/

lemma split_eq_cons {text : Text} (h : text ≠ []) :
    split text = upToTerminator text 0 :: (split text).tail := by
  induction text with
  | nil => exact absurd rfl h
  | cons c rest ih =>
      rw [split_cons]
      by_cases hc : isTerminator c = true
      · simp [upToTerminator, hc]
      · cases rest with
        | nil => simp [upToTerminator, extendFirst, hc]
        | cons d rest =>
            have ih' := ih (List.cons_ne_nil d rest)
            rw [ih']
            simp [upToTerminator, extendFirst, hc]

lemma tail_split_cons {c : Char} (hc : isTerminator c = false) (rest : Text) :
    (split (c :: rest)).tail = (split rest).tail := by
  rw [split_cons, hc]
  cases split rest <;> rfl

/-- What a marker puts around the name of its tag holds no terminator. -/
lemma plain_marker_iff {tag : Tag} : Plain tag.marker ↔ Plain tag.name := by
  rw [Tag.marker, plain_cons, plain_append]
  exact (and_iff_right (by decide)).trans (and_iff_left (by decide))

/-- A record fits into a line if its tag and its message do. -/
lemma plain_marker_append_iff {tag : Tag} {message : Text} :
    Plain (tag.marker ++ message) ↔ Plain tag.name ∧ Plain message := by
  rw [plain_append, plain_marker_iff]

/-- A marker without terminators is looked for in the line only, however the text goes on. -/
lemma marks_upToTerminator {tag : Tag} (h : Plain tag.name) (text : Text) :
    tag.marks (upToTerminator text 0) = tag.marker.isPrefixOf text := by
  have hplain : ∀ c ∈ tag.marker, (!isTerminator c) = true := fun c hc => by
    simp [plain_marker_iff.2 h c hc]
  rw [Bool.eq_iff_iff, Tag.marks, List.isPrefixOf_iff_prefix, List.isPrefixOf_iff_prefix]
  constructor
  · exact fun hprefix => hprefix.trans (List.takeWhile_prefix _)
  · rintro ⟨rest, rfl⟩
    rw [upToTerminator, List.drop_zero, List.takeWhile_append_of_pos hplain]
    exact List.prefix_append _ _

lemma isPrefixOf_cons_of_isTerminator (tag : Tag) {c : Char} (hc : isTerminator c = true)
    (rest : Text) : tag.marker.isPrefixOf (c :: rest) = false := by
  have hne : ('[' == c) = false := by
    rw [beq_eq_false_iff_ne]
    rintro rfl
    exact absurd hc (by decide)
  rw [Tag.marker, List.isPrefixOf_cons_cons, hne, Bool.false_and]

/-! ## Agreement -/

/-- The recursion finds the lines of the tag if a line may begin at once, and otherwise those after
the first. -/
theorem searchFrom_eq {tag : Tag} (h : Plain tag.name) (text : Text) :
    tag.searchFrom true text = select tag text ∧
      tag.searchFrom false text = (split text).tail.filter tag.marks := by
  induction text with
  | nil => exact ⟨rfl, rfl⟩
  | cons c rest ih =>
      obtain ⟨ihTrue, ihFalse⟩ := ih
      by_cases hc : isTerminator c = true
      · have hfrom : ∀ first, tag.searchFrom first (c :: rest) = select tag rest := by
          intro first
          rw [Tag.searchFrom, isPrefixOf_cons_of_isTerminator tag hc, hc, ihTrue]
          simp
        have htail : (split (c :: rest)).tail.filter tag.marks = select tag (c :: rest) := by
          simp [select, split_cons, hc]
        rw [htail, select_cons_of_isTerminator tag hc]
        exact ⟨hfrom true, hfrom false⟩
      · rw [Bool.not_eq_true] at hc
        have hselect : select tag (c :: rest) =
            (if tag.marker.isPrefixOf (c :: rest) then [upToTerminator (c :: rest) 0] else []) ++
              (split rest).tail.filter tag.marks := by
          rw [select, split_eq_cons (List.cons_ne_nil c rest), tail_split_cons hc, List.filter_cons,
            marks_upToTerminator h]
          split_ifs <;> rfl
        constructor
        · rw [Tag.searchFrom, hc, ihFalse, hselect, Bool.true_and]
        · rw [Tag.searchFrom, hc, ihFalse, tail_split_cons hc]
          simp

/-- **Selecting is an anchored search.**  The kept lines are what stands, up to the next terminator,
at the places where the marker follows a terminator or begins the text; each place gives one line,
in order. -/
theorem select_eq_search {tag : Tag} (h : Plain tag.name) (content : Text) :
    select tag content = tag.search content := by
  rw [search_eq_searchFrom, (searchFrom_eq h content).1]

/-- A pair, a marker inside a line, an empty line and a line separator between two lines. -/
theorem select_eq_search_mixed_endings :
    Plain ['a'] ∧
      select ⟨['a']⟩ "[a] 1\r\n-[a] 2\n\n[a] 3\u2028[a] ".toList =
        Tag.search ⟨['a']⟩ "[a] 1\r\n-[a] 2\n\n[a] 3\u2028[a] ".toList ∧
      Tag.search ⟨['a']⟩ "[a] 1\r\n-[a] 2\n\n[a] 3\u2028[a] ".toList =
        ["[a] 1".toList, "[a] 3".toList, "[a] ".toList] :=
  ⟨by decide, select_eq_search (by decide) _, by decide⟩

end LogSieve
