import LogSieve.Text.Basic

/-!
# Paths

A path is any octets; slashes divide it into components.

* `Path.components` — what stands between the slashes, empty components included.
* `Path.isAbsolute` — whether the path starts at the root.
* `Path.name?` — the component that names what the path leads to, if it names anything.
* `Path.identity` — what paths have in common that differ only in their spelling.
  `identity_idle_between` and `identity_idle_behind` are the freedom that there is in spelling.
-/

namespace LogSieve.Path

/-- The octet between components. -/
def separator : UInt8 :=
  0x2F

/-- The component that stays where it is. -/
def here : Octets :=
  Text.encode ".".toList

/-- The component that goes up. -/
def parent : Octets :=
  Text.encode "..".toList

/-- The components of a path.  One that begins or ends with a slash, or has two in a row, has empty
components. -/
def components (path : Octets) : List Octets :=
  fields separator path

def isAbsolute (path : Octets) : Bool :=
  path.head? == some separator

/-- Whether a component leads nowhere. -/
def isIdle (component : Octets) : Bool :=
  component.isEmpty || component == here

/-- The last component that leads somewhere, unless it goes up. -/
def name? (path : Octets) : Option Octets :=
  match ((components path).filter (!isIdle ·)).getLast? with
  | none => none
  | some name => if name = parent then none else some name

/-- A path without the freedom that there is in writing it. -/
structure Identity where
  isAbsolute : Bool
  /-- Whether the path begins with the component that stays where it is.  Only there is that
  component of any importance. -/
  startsHere : Bool
  names : List Octets
  deriving DecidableEq, Repr

/-- What a path is when doubled slashes, a slash at its end and idle components inside of it are
disregarded.  A component that goes up is kept: where it leads depends on the files. -/
def identity (path : Octets) : Identity where
  isAbsolute := isAbsolute path
  startsHere := (components path).head? == some here
  names := (components path).filter (!isIdle ·)

/-! ## Spellings of a path -/

theorem components_append_cons (front back : Octets) :
    components (front ++ separator :: back) = components front ++ components back :=
  fields_append_cons separator front back

theorem components_of_isIdle {component : Octets} (h : isIdle component = true) :
    components component = [component] := by
  have hspelled : component = [] ∨ component = here := by simpa [isIdle] using h
  rcases hspelled with rfl | rfl <;> decide

/-- What comes behind a slash has no bearing on how the path begins. -/
theorem head?_components_append_cons (front back : Octets) :
    (components (front ++ separator :: back)).head? = (components front).head? := by
  obtain ⟨first, others, hfront⟩ :=
    List.exists_cons_of_ne_nil (fields_ne_nil separator front)
  rw [components_append_cons, components, hfront]
  rfl

/-- A slash may be doubled, and an idle component may stand between two of them. -/
theorem identity_idle_between (front back : Octets) {component : Octets}
    (h : isIdle component = true) :
    identity (front ++ separator :: (component ++ separator :: back)) =
      identity (front ++ separator :: back) := by
  have habsolute : isAbsolute (front ++ separator :: (component ++ separator :: back)) =
      isAbsolute (front ++ separator :: back) := by
    cases front <;> rfl
  rw [identity, identity, habsolute, head?_components_append_cons, head?_components_append_cons,
    components_append_cons, components_append_cons, components_append_cons, components_of_isIdle h]
  simp [h]

/-- A slash may stand at the end, with an idle component behind it or without. -/
theorem identity_idle_behind {front component : Octets} (hfront : front ≠ [])
    (h : isIdle component = true) :
    identity (front ++ separator :: component) = identity front := by
  have habsolute : isAbsolute (front ++ separator :: component) = isAbsolute front := by
    obtain ⟨octet, rest, rfl⟩ := List.exists_cons_of_ne_nil hfront
    rfl
  rw [identity, identity, habsolute, head?_components_append_cons, components_append_cons,
    components_of_isIdle h]
  simp [h]

end LogSieve.Path
