import LogSieve.FileTree.Basic
import LogSieve.History

/-!
# Histories of a tree of files

Changes of the tree and three ways of reading from it, one after the other.

* `FileTree.Step`, `FileTree.Answer` — what can be done, and what comes back.
* `FileTree.step`, `FileTree.run` — one step, and the answers to a list of them.
  `FileTree.step_of_isReading` says that reading leaves the tree as it is.
-/

namespace LogSieve.FileTree

/-- A change of the tree, or one of the three ways of reading a log from it. -/
inductive Step where
  | write (path content : Octets)
  | append (path content : Octets)
  | makeDirectory (path : Octets)
  | remove (path : Octets)
  | read (path : Octets)
  | split (path : Octets)
  | select (path : Octets) (tag : Tag)
  deriving DecidableEq, Repr

inductive Answer where
  | changed (result : Except Fault Unit)
  | log (result : Except Failure Log)
  | lines (result : Except Failure (List Line))
  | text (result : Except Failure Text)

def Step.isReading : Step → Bool
  | .read _ | .split _ | .select .. => true
  | _ => false

/-- A change, if it can be made; otherwise the tree stays as it was. -/
def attempt (tree : FileTree) (change : Except Fault FileTree) : Answer × FileTree :=
  match change with
  | .ok changed => (.changed (.ok ()), changed)
  | .error fault => (.changed (.error fault), tree)

def step (tree : FileTree) : Step → Answer × FileTree
  | .write path content => tree.attempt (tree.write path content)
  | .append path content => tree.attempt (tree.append path content)
  | .makeDirectory path => tree.attempt (tree.makeDirectory path)
  | .remove path => tree.attempt (tree.remove path)
  | .read path => (.log (tree.source path).outcome, tree)
  | .split path => (.lines ((tree.source path).outcome.map fun log => Line.split log.content), tree)
  | .select path tag => (.text (tree.source.selectJoined path tag).outcome, tree)

def run (tree : FileTree) (steps : List Step) : List Answer :=
  History.answers step tree steps

theorem step_of_isReading (tree : FileTree) {s : Step} (h : s.isReading = true) :
    (tree.step s).2 = tree := by
  cases s <;> simp_all [Step.isReading, step]

end LogSieve.FileTree
