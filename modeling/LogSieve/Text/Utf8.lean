import LogSieve.Text.Basic

/-!
# Reading octets as UTF-8

Octets that should be text are cut into *segments*: characters, and ill-formed parts in between.
An ill-formed part is maximal: the longest beginning of some character that the octets contain at
that place, or one octet that begins no character at all.  Everything the rest of the library wants
to know about an encoding is a view of that one list.

* `Utf8.reading` — what a short run of octets is: a character, the beginning of one, or neither.
  This is the table of well-formed sequences, and the only place that knows about bits.
* `Utf8.segments` — the cut, made octet by octet from the left.  It is a fold, so what has been cut
  never depends on the octets that follow (`Utf8.scan_append`).
* `Utf8.decode?` — the strict reading: the text, if no segment is ill-formed.
* `Utf8.lossy` — the forgiving reading: U+FFFD for each ill-formed part.
* `Utf8.wellFormedHead` — the text in front of the first ill-formed part, and `Utf8.validUpTo`, how
  many octets it takes up.
-/

namespace LogSieve.Utf8

/-! ## Characters as short runs of octets -/

/-- What a run of one to four octets is. -/
inductive Reading where
  | character (c : Char)
  /-- Not a character yet, but more octets can make it one. -/
  | beginning
  /-- No character's encoding begins like this. -/
  | neither
  deriving DecidableEq, Repr

def within (low high : Nat) (octet : UInt8) : Bool :=
  low ≤ octet.toNat && octet.toNat ≤ high

/-- Whether an octet continues a character: the range of every octet after the second. -/
def isTail (octet : UInt8) : Bool :=
  within 0x80 0xBF octet

/-- Whether an octet may stand second after a lead octet.  Four leads narrow the range of tails:
two so that no character has a longer encoding than it needs, one to leave out the surrogates, and
one to end at U+10FFFF. -/
def isSecond (lead octet : UInt8) : Bool :=
  match lead with
  | 0xE0 => within 0xA0 0xBF octet
  | 0xED => within 0x80 0x9F octet
  | 0xF0 => within 0x90 0xBF octet
  | 0xF4 => within 0x80 0x8F octet
  | _ => isTail octet

/-- The lead octets of characters of two, three and four octets. -/
def leadsTwo (octet : UInt8) : Bool :=
  within 0xC2 0xDF octet

@[inherit_doc leadsTwo]
def leadsThree (octet : UInt8) : Bool :=
  within 0xE0 0xEF octet

@[inherit_doc leadsTwo]
def leadsFour (octet : UInt8) : Bool :=
  within 0xF0 0xF4 octet

/-- The character with the given groups of six bits, the first group holding what is left of the
lead octet. -/
def ofBits (groups : List Nat) : Char :=
  Char.ofNat (groups.foldl (fun value bits => value * 64 + bits) 0)

def tailBits (octet : UInt8) : Nat :=
  octet.toNat - 0x80

/-- What a run of octets is, from the table of well-formed sequences. -/
def reading : Octets → Reading
  | [a] =>
    if a.toNat < 0x80 then .character (Char.ofNat a.toNat)
    else if leadsTwo a || leadsThree a || leadsFour a then .beginning
    else .neither
  | [a, b] =>
    if leadsTwo a && isSecond a b then .character (ofBits [a.toNat - 0xC0, tailBits b])
    else if (leadsThree a || leadsFour a) && isSecond a b then .beginning
    else .neither
  | [a, b, c] =>
    if leadsThree a && isSecond a b && isTail c then
      .character (ofBits [a.toNat - 0xE0, tailBits b, tailBits c])
    else if leadsFour a && isSecond a b && isTail c then .beginning
    else .neither
  | [a, b, c, d] =>
    if leadsFour a && isSecond a b && isTail c && isTail d then
      .character (ofBits [a.toNat - 0xF0, tailBits b, tailBits c, tailBits d])
    else .neither
  | _ => .neither

/-! ## Segments -/

/-- A stretch of the octets: a character, or a part that is none. -/
inductive Segment where
  | character (c : Char)
  | illFormed (octets : Octets)
  deriving DecidableEq, Repr

def Segment.character? : Segment → Option Char
  | .character c => some c
  | .illFormed _ => none

def Segment.octets : Segment → Octets
  | .character c => String.utf8EncodeChar c
  | .illFormed octets => octets

/-- The character that stands for a segment in a forgiving reading. -/
def Segment.shown : Segment → Char
  | .character c => c
  | .illFormed _ => '\uFFFD'

/-- The cut in progress: the segments found, latest first, and the octets that begin a character
without finishing it. -/
structure Scan where
  found : List Segment := []
  unfinished : Octets := []
  deriving DecidableEq, Repr

/-- Reads an octet at a place where a segment starts. -/
def Scan.start (found : List Segment) (octet : UInt8) : Scan :=
  match reading [octet] with
  | .character c => ⟨.character c :: found, []⟩
  | .beginning => ⟨found, [octet]⟩
  | .neither => ⟨.illFormed [octet] :: found, []⟩

/-- Reads one octet.  If it cannot continue the unfinished character, the octets of that character
are an ill-formed part, and the octet is looked at again as the start of a segment. -/
def Scan.step (scan : Scan) (octet : UInt8) : Scan :=
  match scan.unfinished with
  | [] => Scan.start scan.found octet
  | part =>
    match reading (part ++ [octet]) with
    | .character c => ⟨.character c :: scan.found, []⟩
    | .beginning => ⟨scan.found, part ++ [octet]⟩
    | .neither => Scan.start (.illFormed part :: scan.found) octet

/-- The segments once the octets have ended; a character that was cut off is ill-formed. -/
def Scan.finish (scan : Scan) : List Segment :=
  match scan.unfinished with
  | [] => scan.found.reverse
  | part => (.illFormed part :: scan.found).reverse

/-- The cut after some octets have been read. -/
def scan (octets : Octets) : Scan :=
  octets.foldl Scan.step {}

def segments (octets : Octets) : List Segment :=
  (scan octets).finish

@[simp] theorem scan_nil : scan [] = {} := rfl

/-- Reading goes on from where it stood: more octets never undo a cut. -/
theorem scan_append (a b : Octets) : scan (a ++ b) = b.foldl Scan.step (scan a) :=
  List.foldl_append

/-! ## Views -/

/-- The text that octets encode, or `none` if some part of them is ill-formed. -/
def decode? (octets : Octets) : Option Text :=
  (segments octets).mapM Segment.character?

/-- The text that octets encode, with U+FFFD for each ill-formed part. -/
def lossy (octets : Octets) : Text :=
  (segments octets).map Segment.shown

/-- The characters in front of the first ill-formed part. -/
def wellFormedHead (octets : Octets) : Text :=
  ((segments octets).takeWhile (·.character?.isSome)).filterMap Segment.character?

def validUpTo (octets : Octets) : Nat :=
  (Text.encode (wellFormedHead octets)).length

end LogSieve.Utf8
