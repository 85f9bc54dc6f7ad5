import LogSieve.Log
import LogSieve.Path

/-!
# A tree of files

Files are reached by walking down from the root, or from the directory in which the program runs,
one component of a path at a time.  A tree is the list of its nodes, each with the components that
lead to it from the root.

* `FileTree.enter` — one component of a walk; the only place that knows what a component may do.
* `FileTree.read` — the octets of the file at a path, or the fault of not getting there.
* `FileTree.write`, `append`, `makeDirectory`, `remove` — the changes.
* `FileTree.source` — the tree as a source of logs.
-/

namespace LogSieve

inductive Node where
  | directory
  | file (content : Octets)
  /-- A device that is always empty, whatever is written to it. -/
  | null
  deriving DecidableEq, Repr

/-- A place: the components that lead there from the root. -/
abbrev Place := List Octets

/-- Directories and files, and the directory in which paths start. -/
structure FileTree where
  nodes : List (Place × Node)
  home : Place
  deriving DecidableEq, Repr

namespace FileTree

/-- The octet that ends a path where the system reads it, so that no path can hold it. -/
def pathEnd : UInt8 :=
  0

def pathLimit : Nat :=
  4096

def componentLimit : Nat :=
  255

/-- A directory of its own in a tree that otherwise holds only the null device. -/
def scratch : FileTree :=
  let component (name : String) := Text.encode name.toList
  let home := [component "tmp", component "scratch"]
  { nodes := [
      ([component "dev"], .directory),
      ([component "dev", component "null"], .null),
      ([component "tmp"], .directory),
      (home, .directory)]
    home }

/-- What stands at a place.  The root is a directory in every tree. -/
def node? (tree : FileTree) (place : Place) : Option Node :=
  if place.isEmpty then some .directory else tree.nodes.lookup place

def put (tree : FileTree) (place : Place) (node : Node) : FileTree :=
  { tree with nodes := (place, node) :: tree.nodes.filter (·.1 != place) }

/-! ## Walking -/

/-- One component of a walk.  Only a directory can be walked through, even by a component that stays
there, and going up from the root stays at the root. -/
def enter (tree : FileTree) (place : Place) (component : Octets) : Except Fault Place :=
  match tree.node? place with
  | none => .error Fault.notFound
  | some (.file _) | some .null => .error Fault.notADirectory
  | some .directory =>
    if Path.isIdle component then .ok place
    else if component = Path.parent then .ok place.dropLast
    else if component.length > componentLimit then .error Fault.nameTooLong
    else
      let next := place ++ [component]
      if (tree.node? next).isSome then .ok next else .error Fault.notFound

def walk (tree : FileTree) (place : Place) (components : List Octets) : Except Fault Place :=
  components.foldlM tree.enter place

def components (path : Octets) : Except Fault (List Octets) :=
  if path.contains pathEnd then
    .error ⟨.invalidInput, "file name contained an unexpected NUL byte".toList⟩
  else if path.isEmpty then .error Fault.notFound
  else if path.length ≥ pathLimit then .error Fault.nameTooLong
  else .ok (Path.components path)

/-- Where a path starts. -/
def origin (tree : FileTree) (path : Octets) : Place :=
  if Path.isAbsolute path then [] else tree.home

def resolve (tree : FileTree) (path : Octets) : Except Fault Place := do
  tree.walk (tree.origin path) (← components path)

/-! ## Reading -/

/-- The octets at a path.  A directory can be found but not read. -/
def read (tree : FileTree) (path : Octets) : Except Fault Octets := do
  match tree.node? (← tree.resolve path) with
  | some (.file content) => .ok content
  | some .null => .ok []
  | some .directory => .error Fault.isADirectory
  | none => .error Fault.notFound

def source (tree : FileTree) : Source := fun path =>
  Log.receive path (tree.read path)

/-! ## Changing -/

/-- Walks like `walk`, making each directory that is not there. -/
def makeDirectories (tree : FileTree) (place : Place) :
    List Octets → Except Fault (FileTree × Place)
  | [] => .ok (tree, place)
  | component :: rest =>
    match tree.enter place component with
    | .ok next => makeDirectories tree next rest
    | .error fault =>
      if fault.kind = .notFound then
        let next := place ++ [component]
        makeDirectories (tree.put next .directory) next rest
      else .error fault

/-- Puts octets into the file of a name in a directory; `before` says what stays of the octets that
the file holds. -/
def store (tree : FileTree) (place : Place) (name : Octets) (before : Octets → Octets)
    (content : Octets) : Except Fault FileTree :=
  if Path.isIdle name || name == Path.parent then .error Fault.isADirectory
  else
    match tree.enter place name with
    | .error fault =>
      if fault.kind = .notFound then .ok (tree.put (place ++ [name]) (.file content))
      else .error fault
    | .ok next =>
      match tree.node? next with
      | some (.file old) => .ok (tree.put next (.file (before old ++ content)))
      | some .null => .ok tree
      | _ => .error Fault.isADirectory

def write (tree : FileTree) (path content : Octets) : Except Fault FileTree := do
  let names ← components path
  let (wider, place) ← tree.makeDirectories (tree.origin path) names.dropLast
  wider.store place (names.getLast?.getD []) (fun _ => []) content

/-- Adds octets to the end of a file, which is made if it is not there. -/
def append (tree : FileTree) (path content : Octets) : Except Fault FileTree := do
  let names ← components path
  let place ← tree.walk (tree.origin path) names.dropLast
  tree.store place (names.getLast?.getD []) id content

/-- Makes a directory and those on the way to it.  The empty path asks for nothing. -/
def makeDirectory (tree : FileTree) (path : Octets) : Except Fault FileTree := do
  if path.isEmpty then return tree
  let names ← components path
  let (wider, place) ← tree.makeDirectories (tree.origin path) names
  match wider.node? place with
  | some .directory => .ok wider
  | _ => .error Fault.notADirectory

/-- Takes away what stands at a path, with everything below. -/
def remove (tree : FileTree) (path : Octets) : Except Fault FileTree := do
  let place ← tree.resolve path
  return { tree with nodes := tree.nodes.filter fun entry => !place.isPrefixOf entry.1 }

end FileTree

end LogSieve
