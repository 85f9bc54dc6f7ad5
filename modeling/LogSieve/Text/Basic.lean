/-!
# Text and octets

Two alphabets run through the whole library.  A log is *text*, a list of characters, once it has
been read; a path, an argument of the command line and the content of a file are *octets*, and
nothing promises that they are text.

* `Text.encode` — the UTF-8 octets of a text.  `Text.encode_append` says that it distributes over
  concatenation, which is all that most proofs about it need.
* `Text.ofNat` — a number in decimal digits.
* `Text.splitAtOctet?` and `Text.slice?` — parts of a text whose ends are counted in octets.
* `dropLeading` — what is left of a list after an expected beginning.
* `fields` — the parts of a list between separators, empty ones included.
-/

namespace LogSieve

/-- Characters in order.  Every element is a Unicode scalar value, so a text always has an
encoding. -/
abbrev Text := List Char

/-- Raw octets in order, as the operating system hands them over. -/
abbrev Octets := List UInt8

namespace Text

/-- The UTF-8 octets of a text, character after character. -/
def encode (text : Text) : Octets :=
  text.flatMap String.utf8EncodeChar

@[simp] theorem encode_nil : encode [] = [] := rfl

@[simp] theorem encode_cons (c : Char) (text : Text) :
    encode (c :: text) = String.utf8EncodeChar c ++ encode text := rfl

@[simp] theorem encode_append (a b : Text) : encode (a ++ b) = encode a ++ encode b := by
  simp [encode]

/-- The decimal digits of a number, without leading zeros. -/
def ofNat (n : Nat) : Text :=
  Nat.toDigits 10 n

/-- The number of octets that encode a text. -/
def octetCount (text : Text) : Nat :=
  (encode text).length

/-- Cuts a text after a number of octets, if no character is cut through by that. -/
def splitAtOctet? : Text → Nat → Option (Text × Text)
  | text, 0 => some ([], text)
  | [], _ + 1 => none
  | c :: rest, n + 1 =>
    if c.utf8Size ≤ n + 1 then
      (splitAtOctet? rest (n + 1 - c.utf8Size)).map fun (front, back) => (c :: front, back)
    else none

/-- The part of a text between two numbers of octets, if no character is cut through. -/
def slice? (text : Text) (first last : Nat) : Option Text := do
  let (front, _) ← splitAtOctet? text last
  let (_, part) ← splitAtOctet? front first
  return part

/-- Cutting loses nothing. -/
theorem append_of_splitAtOctet? {text front back : Text} {n : Nat}
    (h : splitAtOctet? text n = some (front, back)) : front ++ back = text := by
  induction text generalizing n front with
  | nil =>
    cases n with
    | zero => simp_all [splitAtOctet?]
    | succ n => simp [splitAtOctet?] at h
  | cons c rest ih =>
    cases n with
    | zero => simp_all [splitAtOctet?]
    | succ n =>
      rw [splitAtOctet?] at h
      split at h
      · obtain ⟨⟨front', back'⟩, hrest, hpair⟩ := Option.map_eq_some_iff.1 h
        obtain ⟨rfl, rfl⟩ := Prod.mk.inj hpair
        rw [List.cons_append, ih hrest]
      · simp at h

end Text

/-- What remains of a list after an expected beginning, or `none` if the list does not begin so. -/
def dropLeading {α : Type} [DecidableEq α] : (lead list : List α) → Option (List α)
  | [], list => some list
  | _ :: _, [] => none
  | a :: lead, b :: list => if a = b then dropLeading lead list else none

/-- The remainder is exactly what has to be put after the beginning to get the list back. -/
theorem dropLeading_eq_some_iff {α : Type} [DecidableEq α] {lead list rest : List α} :
    dropLeading lead list = some rest ↔ list = lead ++ rest := by
  induction lead generalizing list with
  | nil => simp [dropLeading]
  | cons a lead ih =>
    cases list with
    | nil => simp [dropLeading]
    | cons b list =>
      by_cases h : a = b
      · simp [dropLeading, h, ih]
      · simp [dropLeading, h, Ne.symm h]

/-- The parts of a list between the occurrences of a separator.  There is one part more than there
are separators, so parts may be empty. -/
def fields {α : Type} [DecidableEq α] (separator : α) (list : List α) : List (List α) :=
  list.foldr (fun a parts =>
    if a = separator then [] :: parts
    else
      match parts with
      | [] => [[a]]
      | part :: parts => (a :: part) :: parts) [[]]

theorem fields_ne_nil {α : Type} [DecidableEq α] (separator : α) (list : List α) :
    fields separator list ≠ [] := by
  cases list with
  | nil => simp [fields]
  | cons a list =>
    rw [fields, List.foldr_cons]
    split
    · simp
    · split <;> simp

/-- Each separator divides the parts in front of it from those behind it. -/
theorem fields_append_cons {α : Type} [DecidableEq α] (separator : α) (front back : List α) :
    fields separator (front ++ separator :: back) =
      fields separator front ++ fields separator back := by
  induction front with
  | nil => simp [fields]
  | cons a front ih =>
    have hcons (list : List α) : fields separator (a :: list) =
        if a = separator then [] :: fields separator list
        else
          match fields separator list with
          | [] => [[a]]
          | part :: parts => (a :: part) :: parts := rfl
    rw [List.cons_append, hcons, hcons, ih]
    obtain ⟨part, parts, hparts⟩ := List.exists_cons_of_ne_nil (fields_ne_nil separator front)
    by_cases h : a = separator
    · simp [h]
    · simp [h, hparts]

end LogSieve
