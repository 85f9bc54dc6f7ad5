import LogSieve.Text.Basic

/-!
# Control sequences

A terminal obeys some characters instead of showing them: control characters, and whole sequences
that begin with ESC.  A message that quotes what a user typed must not pass such commands on, so
they are left out of the quotation.

* `ControlSequence.State` — what a terminal takes the next character for.
* `ControlSequence.step` — one character: the state after it, and whether it is shown.
* `ControlSequence.visible` — the characters of a text that are shown.

The kinds of sequences differ only in how they end.  Three things end each of them: CAN and SUB break
it off, ESC begins another one, and in the short ones a line or blank control does what it always
does.
-/

namespace LogSieve.ControlSequence

/-- What the next character is taken for. -/
inductive State where
  | ground
  | escape
  /-- What follows an intermediate character of a short sequence. -/
  | intermediate
  /-- A part of a sequence that ESC and a bracket began, up to its final character. -/
  | control
  /-- A part of a command to the terminal program, up to BEL. -/
  | command
  /-- A part of the head of a device string. -/
  | deviceHead
  /-- A part of a string, up to the octet 9C. -/
  | string
  deriving DecidableEq, Repr

/-- The controls that move on in the text and are shown like characters: tab, line feed, form feed
and carriage return. -/
def isLayout (c : Char) : Bool :=
  c = '\t' || c = '\n' || c = '\x0c' || c = '\r'

/-- Whether a code point is that of a control character of ASCII other than DEL. -/
def isControl (n : Nat) : Bool :=
  n < 0x20

def afterEscape (c : Char) : State :=
  if c = '[' then .control
  else if c = ']' then .command
  else if c = 'P' then .deviceHead
  else if c = 'X' || c = '^' || c = '_' then .string
  else if c.toNat < 0x30 then .intermediate
  else if c.toNat < 0x7F then .ground
  else .escape

/-- Whether a character ends a sequence that goes on up to a character from `first`. -/
def isFinal (first : Char) (c : Char) : Bool :=
  first.toNat ≤ c.toNat && c.toNat < 0x7F

def stepAscii (state : State) (c : Char) : State × Bool :=
  match state with
  | .ground => (.ground, isLayout c || (!isControl c.toNat && c.toNat < 0x7F))
  | .escape =>
    if isLayout c then (.ground, true)
    else if isControl c.toNat then (.escape, false)
    else (afterEscape c, false)
  | .intermediate =>
    if isLayout c then (.ground, true)
    else (if isFinal '0' c then .ground else .intermediate, false)
  | .control =>
    if isLayout c then (.ground, true)
    else (if isFinal '@' c then .ground else .control, false)
  | .command => (if c = '\x07' then .ground else .command, false)
  | .deviceHead => (if isFinal '@' c then .string else .deviceHead, false)
  | .string => (.string, false)

/-- One character: the state after it, and whether it is shown.  Beyond ASCII every character is
shown, unless it stands in a sequence. -/
def step (state : State) (c : Char) : State × Bool :=
  if c = '\x18' || c = '\x1a' then (.ground, false)
  else if c = '\x1b' then (.escape, false)
  else if c.toNat < 0x80 then stepAscii state c
  else
    match state with
    | .ground => (.ground, true)
    | .string =>
      (if (String.utf8EncodeChar c).contains 0x9C then .ground else .string, false)
    | _ => (state, false)

/-- The state of a terminal and the characters it has shown, latest first. -/
structure Screen where
  state : State := .ground
  shown : Text := []
  deriving DecidableEq, Repr

/-- A terminal that has been sent one more character. -/
def Screen.send (screen : Screen) (c : Char) : Screen :=
  let (state, isShown) := step screen.state c
  ⟨state, if isShown then c :: screen.shown else screen.shown⟩

def visible (text : Text) : Text :=
  (text.foldl Screen.send {}).shown.reverse

end LogSieve.ControlSequence
