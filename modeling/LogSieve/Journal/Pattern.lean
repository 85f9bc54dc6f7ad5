import LogSieve.Text.Alphanumeric
import LogSieve.Text.Basic

/-!
# Patterns that can be compiled

A setting may compare a value with a pattern: alternatives of sequences of repeated characters,
classes and groups.  Values never get compared here, because no event is noted inside a span; what
counts is whether a pattern is one at all, for otherwise the setting is void.

* `Pattern.Mode` — what the flags in a pattern change that bears on that.
* `Pattern.escape?` — what follows a backslash.
* `Pattern.skipClass?` — the rest after a class in brackets.
* `Pattern.openGroup?` — the rest after the head of a group in parentheses.
* `Pattern.isValid` — the whole pattern.

Patterns are compiled without tables of Unicode.  The classes of escaped letters, word boundaries and
the comparison without case, which all need them, are refused unless the pattern is read octet by
octet; and then whatever could match an octet that is no character of its own is refused.  The flag
that lets blanks in a pattern stand for nothing is passed over.
-/

namespace LogSieve.Pattern

/-- How what follows in a pattern is read. -/
structure Mode where
  /-- Character by character, and not octet by octet. -/
  inCharacters : Bool := true
  ignoresCase : Bool := false
  deriving DecidableEq, Repr

namespace Mode

/-- Whether what a literal or a class matches is looked up in a table of Unicode. -/
def needsTable (mode : Mode) : Bool :=
  mode.inCharacters && mode.ignoresCase

/-- The mode after flags: those before a hyphen are set, those after it are taken back. -/
def change (mode : Mode) (flags : Text) : Mode :=
  let set := flags.takeWhile (· ≠ '-')
  let takenBack := flags.dropWhile (· ≠ '-')
  { inCharacters := set.contains 'u' || (mode.inCharacters && !takenBack.contains 'u')
    ignoresCase := set.contains 'i' || (mode.ignoresCase && !takenBack.contains 'i') }

end Mode

/-! ## Escapes -/

/-- What an escape stands for. -/
inductive Escape where
  | literal (c : Char)
  /-- One of the classes that have a letter for a name. -/
  | members
  /-- A place in the text: its beginning or its end, or the edge of a word. -/
  | anchor
  deriving DecidableEq, Repr

def hexDigit? (c : Char) : Option Nat :=
  if c.isDigit then some (c.toNat - '0'.toNat)
  else if 'a' ≤ c && c ≤ 'f' then some (c.toNat - 'a'.toNat + 10)
  else if 'A' ≤ c && c ≤ 'F' then some (c.toNat - 'A'.toNat + 10)
  else none

/-- A character given by a fixed number of hexadecimal digits, and the rest. -/
def hexEscape? (count : Nat) (text : Text) : Option (Char × Text) := do
  let digits ← (text.take count).mapM hexDigit?
  let n := digits.foldl (fun n digit => n * 16 + digit) 0
  if digits.length = count ∧ n.isValidChar then some (Char.ofNat n, text.drop count)
  else none

/-- The control characters that are written as letters. -/
def controls : List (Char × Char) :=
  [('a', '\x07'), ('f', '\x0c'), ('t', '\t'), ('n', '\n'), ('r', '\r'), ('v', '\x0b')]

/-- What follows a backslash, and the rest.  Punctuation and blanks of ASCII stand for themselves.  Two
digits after an `x` are an octet where patterns are read octet by octet. -/
def escape? (mode : Mode) : Text → Option (Escape × Text)
  | [] => none
  | 'x' :: rest => do
    let (c, rest) ← hexEscape? 2 rest
    if mode.inCharacters || c.toNat < 0x80 then some (.literal c, rest) else none
  | 'u' :: rest => (hexEscape? 4 rest).map fun (c, rest) => (.literal c, rest)
  | 'U' :: rest => (hexEscape? 8 rest).map fun (c, rest) => (.literal c, rest)
  | c :: rest =>
    match controls.lookup c with
    | some control => some (.literal control, rest)
    | none =>
      if c = 'A' || c = 'z' then some (.anchor, rest)
      else if ['b', 'B', '<', '>'].contains c then
        if mode.inCharacters then none else some (.anchor, rest)
      else if ['d', 's', 'w'].contains c then
        if mode.inCharacters then none else some (.members, rest)
      else if c.toNat < 0x80 && !c.isAlphanum then some (.literal c, rest)
      else none

/-! ## Classes -/

/-- The names of classes that are written between colons in a class. -/
def classNames : List String :=
  ["alnum", "alpha", "ascii", "blank", "cntrl", "digit", "graph", "lower", "print", "punct",
    "space", "upper", "word", "xdigit"]

/-- A class that is written between colons, the opening bracket being read: whether it is everything
but the class that it names, and the rest. -/
def namedClass? : Text → Option (Bool × Text)
  | ':' :: text =>
    let (isNegated, inner) := match text with
      | '^' :: rest => (true, rest)
      | _ => (false, text)
    let name := inner.takeWhile Char.isAlphanum
    match inner.dropWhile Char.isAlphanum with
    | ':' :: ']' :: rest =>
      if classNames.any (·.toList = name) then some (isNegated, rest) else none
    | _ => none
  | _ => none

/-- The members of a class after its opening bracket: a caret, hyphens and a bracket that stand first
are passed over.  Everything but some characters is no class of octets. -/
def openClass? (mode : Mode) (text : Text) : Option Text :=
  let (isNegated, inner) := match text with
    | '^' :: rest => (true, rest)
    | _ => (false, text)
  let members := inner.dropWhile (· = '-')
  if isNegated && !mode.inCharacters then none
  else
    match inner, members with
    | '-' :: _, _ => some members
    | _, ']' :: rest => some rest
    | _, _ => some members

/-- A member of a class and the rest, with the character if it is only one. -/
def classMember? (mode : Mode) : Text → Option (Option Char × Text)
  | [] => none
  | '\\' :: rest =>
    match escape? mode rest with
    | some (.literal c, rest) => some (some c, rest)
    | some (.members, rest) => some (none, rest)
    | _ => none
  | c :: rest => if mode.inCharacters || c.toNat < 0x80 then some (some c, rest) else none

/-- The rest after the members of a class that stands in `depth` other classes.  Every turn reads a
character, so the length of the text is enough for `turns`. -/
def skipMembers? (mode : Mode) (turns depth : Nat) (text : Text) : Option Text :=
  match turns, text with
  | 0, _ | _, [] => none
  | turns + 1, ']' :: rest =>
    match depth with
    | 0 => some rest
    | depth + 1 => skipMembers? mode turns depth rest
  | turns + 1, '[' :: rest =>
    match namedClass? rest with
    | some (isNegated, rest) =>
      if isNegated && !mode.inCharacters then none else skipMembers? mode turns depth rest
    | none => (openClass? mode rest).bind (skipMembers? mode turns (depth + 1))
  | turns + 1, '&' :: '&' :: rest | turns + 1, '-' :: '-' :: rest
  | turns + 1, '~' :: '~' :: rest => skipMembers? mode turns depth rest
  | turns + 1, text => do
    let (first?, rest) ← classMember? mode text
    match rest with
    | '-' :: after =>
      if after.head? = some ']' ∨ after.head? = some '-' then skipMembers? mode turns depth rest
      else
        match first?, ← classMember? mode after with
        | some first, (some last, rest) =>
          if first ≤ last then skipMembers? mode turns depth rest else none
        | _, _ => none
    | _ => skipMembers? mode turns depth rest

/-- The rest after a class, the opening bracket being read. -/
def skipClass? (mode : Mode) (text : Text) : Option Text :=
  (openClass? mode text).bind (skipMembers? mode (text.length + 1) 0)

/-! ## Groups -/

inductive GroupHead where
  | opened (name : Option Text) (mode : Mode)
  /-- Flags are set for what follows, and no group opens. -/
  | flags (mode : Mode)
  deriving DecidableEq, Repr

def isGroupName : Text → Bool
  | [] => false
  | first :: rest =>
    (first = '_' || isAlphanumeric first && !first.isDigit) &&
      rest.all fun c => c = '_' || c = '.' || c = '[' || c = ']' || isAlphanumeric c

/-- Whether a text consists of flags, each once, with at most one hyphen before some of them. -/
def isFlags (text : Text) : Bool :=
  text.all (['m', 's', 'U', 'u', 'R', 'x', 'i', '-'].contains ·) && decide text.Nodup &&
    text.getLast? ≠ some '-'

/-- The head of a group after its parenthesis, and the rest. -/
def openGroup? (mode : Mode) (text : Text) : Option (GroupHead × Text) :=
  let named (rest : Text) : Option (GroupHead × Text) :=
    let name := rest.takeWhile (· ≠ '>')
    match rest.dropWhile (· ≠ '>') with
    | '>' :: after => if isGroupName name then some (.opened (some name) mode, after) else none
    | _ => none
  match text with
  | '?' :: 'P' :: '<' :: rest => named rest
  | '?' :: '<' :: rest => named rest
  | '?' :: rest =>
    let flags := rest.takeWhile fun c => c ≠ ')' && c ≠ ':'
    if !isFlags flags then none
    else
      match rest.dropWhile fun c => c ≠ ')' && c ≠ ':' with
      | ':' :: after => some (.opened none (mode.change flags), after)
      | ')' :: after => if flags.isEmpty then none else some (.flags (mode.change flags), after)
      | _ => none
  | _ => some (.opened none mode, text)

/-! ## Patterns -/

/-- What the part of a pattern in front of some place leaves for the rest. -/
structure Place where
  mode : Mode := {}
  /-- The modes around the groups that are open, the innermost first. -/
  around : List Mode := []
  /-- The names that groups have been given. -/
  names : List Text := []
  /-- Whether something stands in front that can be repeated. -/
  repeatable : Bool := false
  deriving DecidableEq, Repr

/-- Whether the rest of a pattern is valid at a place.  Every turn reads a character, so the length of
the text is enough for `turns`. -/
def isValidFrom (turns : Nat) (place : Place) (text : Text) : Bool :=
  match turns, text with
  | _, [] => place.around.isEmpty
  | 0, _ => false
  | turns + 1, c :: rest =>
    let after := { place with repeatable := true }
    match c with
    | '(' =>
      match openGroup? place.mode rest with
      | some (.opened name mode, rest) =>
        !name.any place.names.contains && isValidFrom turns
          { mode, around := place.mode :: place.around, names := name.toList ++ place.names } rest
      | some (.flags mode, rest) =>
        isValidFrom turns { place with mode, repeatable := false } rest
      | none => false
    | ')' =>
      match place.around with
      | [] => false
      | mode :: around => isValidFrom turns { after with mode, around } rest
    | '|' => isValidFrom turns { place with repeatable := false } rest
    | '*' | '+' | '?' =>
      place.repeatable &&
        match rest with
        | '?' :: rest => isValidFrom turns after rest
        | _ => isValidFrom turns after rest
    | '{' => false
    | '.' => place.mode.inCharacters && isValidFrom turns after rest
    | '^' | '$' => isValidFrom turns after rest
    | '[' =>
      match skipClass? place.mode rest with
      | some rest => !place.mode.needsTable && isValidFrom turns after rest
      | none => false
    | '\\' =>
      match escape? place.mode rest with
      | some (.literal _, rest) => !place.mode.needsTable && isValidFrom turns after rest
      | some (_, rest) => isValidFrom turns after rest
      | none => false
    | _ => !place.mode.needsTable && isValidFrom turns after rest

/-- Whether a text is a pattern.  A counted repetition needs a closing brace, which never gets here,
so an opening brace makes a text none. -/
def isValid (text : Text) : Bool :=
  isValidFrom text.length {} text

end LogSieve.Pattern
