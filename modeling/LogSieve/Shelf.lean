import LogSieve.History
import LogSieve.Log

/-!
# A shelf of logs

A shelf is a source held in memory: for some paths it knows a log or a failure, and it remembers
every path it was asked for.  It finds an entry by a *key* of the path, so it is the key that decides
which paths are the same: with `Path.identity` for the key, all spellings of a path lead to one entry,
and with the path itself for the key, each has an entry of its own.

* `Shelf.get?` — what lies at a path.  `get?_put` and `get?_remove` say what changes it.
* `Shelf.source` — the shelf as a source of logs, and `Shelf.load`, which also remembers that it was
  asked.  `Shelf.select` selects lines from what is loaded.
* `Shelf.step` and `Shelf.run` — a history of changes and selections.
-/

namespace LogSieve

/-- What a shelf answers for a path. -/
inductive ShelfEntry where
  | content (content : Text)
  | faulty (fault : Fault)
  | illEncoded (line : Nat)
  deriving DecidableEq, Repr

/-- Entries by key, and the paths asked for, in order.  The paths are kept as they were given. -/
structure Shelf (Key : Type) where
  entries : List (Key × ShelfEntry) := []
  loads : List Octets := []
  deriving DecidableEq, Repr

namespace Shelf

variable {Key : Type} [DecidableEq Key] (key : Octets → Key)

def get? (shelf : Shelf Key) (path : Octets) : Option ShelfEntry :=
  shelf.entries.lookup (key path)

/-- Takes the entry at a path away, if there is one. -/
def remove (shelf : Shelf Key) (path : Octets) : Shelf Key :=
  { shelf with entries := shelf.entries.filter (·.1 != key path) }

/-- Puts an entry at a path in the place of what was there. -/
def put (shelf : Shelf Key) (path : Octets) (entry : ShelfEntry) : Shelf Key :=
  { shelf with entries := (key path, entry) :: (shelf.remove key path).entries }

/-- Taking the entries of one key away leaves those of the others. -/
theorem lookup_filter_ne {Value : Type} (gone wanted : Key) (entries : List (Key × Value)) :
    (entries.filter (·.1 != gone)).lookup wanted =
      if wanted = gone then none else entries.lookup wanted := by
  induction entries with
  | nil => simp
  | cons head rest ih =>
    obtain ⟨place, value⟩ := head
    by_cases hwanted : wanted = place
    · subst hwanted
      by_cases hgone : wanted = gone
      · simpa [hgone] using ih
      · simp [hgone]
    · have hne : (wanted == place) = false := by simpa using hwanted
      by_cases hgone : place = gone
      · subst hgone
        simp [List.lookup_cons, hwanted, hne, ih]
      · simp [List.lookup_cons, hne, hgone, ih]

theorem get?_remove (shelf : Shelf Key) (path other : Octets) :
    (shelf.remove key path).get? key other =
      if key other = key path then none else shelf.get? key other :=
  lookup_filter_ne (key path) (key other) shelf.entries

theorem get?_put (shelf : Shelf Key) (path other : Octets) (entry : ShelfEntry) :
    (shelf.put key path entry).get? key other =
      if key other = key path then some entry else shelf.get? key other := by
  have hremove := get?_remove key shelf path other
  by_cases h : key other = key path
  · simp [get?, put, h]
  · have hne : (key other == key path) = false := by simpa using h
    rw [if_neg h] at hremove ⊢
    rw [← hremove]
    simp [get?, put, List.lookup_cons, hne]

/-- The shelf as a source.  An empty place is a log that is not found.  A log and a failure bear the
path that was asked for, however it was spelled when the entry was put there. -/
def source (shelf : Shelf Key) : Source := fun path =>
  match shelf.get? key path with
  | some (.content content) => .done ⟨path, content⟩
  | some (.faulty fault) => .failed (.unreadable path fault)
  | some (.illEncoded line) => .failed (.illEncoded path line)
  | none => .failed (.unreadable path (Fault.ofKind .notFound))

/-- Asks for the log at a path, which the shelf remembers whatever it answers. -/
def load (path : Octets) : StateM (Shelf Key) (Account Log) := fun shelf =>
  (shelf.source key path, { shelf with loads := shelf.loads ++ [path] })

def select (path : Octets) (tag : Tag) : StateM (Shelf Key) (Account (List Line)) :=
  selectLoaded (load key) path tag

/-! ## Histories -/

/-- A change of the shelf, or a selection from one of its logs. -/
inductive Step where
  | put (path : Octets) (entry : ShelfEntry)
  | remove (path : Octets)
  | select (path : Octets) (tag : Tag)
  deriving DecidableEq, Repr

inductive Answer where
  /-- Whether there was an entry before the change. -/
  | occupied (before : Bool)
  /-- The selected lines, and every path asked for so far. -/
  | selected (result : Except Failure (List Line)) (loads : List Octets)

def step (shelf : Shelf Key) : Step → Answer × Shelf Key
  | .put path entry => (.occupied (shelf.get? key path).isSome, shelf.put key path entry)
  | .remove path => (.occupied (shelf.get? key path).isSome, shelf.remove key path)
  | .select path tag =>
    let (account, asked) := (select key path tag).run shelf
    (.selected account.outcome asked.loads, asked)

def run (shelf : Shelf Key) (steps : List Step) : List Answer :=
  History.answers (step key) shelf steps

end Shelf

end LogSieve
