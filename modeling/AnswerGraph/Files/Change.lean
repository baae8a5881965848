import AnswerGraph.Files.Tree

/-!
What was changed in a tree, as steps that can be carried out on a disk: new folders with the outer
ones first, then files that are new or have new contents, then files that are gone.
-/

namespace AnswerGraph

inductive FileChange where
  | makeFolder (location : Location)
  | write (location : Location) (contents : Contents)
  | remove (location : Location)
  deriving DecidableEq, Repr

namespace FileTree

def newFolders (before after : FileTree) : List FileChange :=
  let found := after.entries.filterMap fun (place, entry) =>
    if entry = .folder ∧ before.entry? place ≠ some .folder then some place else none
  (found.mergeSort fun a b => a.length ≤ b.length).map .makeFolder

def newFiles (before after : FileTree) : List FileChange :=
  after.entries.filterMap fun (place, entry) =>
    match entry with
    | .file contents =>
      if before.entry? place = some (.file contents) then none else some (.write place contents)
    | _ => none

def goneFiles (before after : FileTree) : List FileChange :=
  before.entries.filterMap fun (place, entry) =>
    if entry ≠ .folder ∧ after.entry? place = none then some (.remove place) else none

/-- The steps from one tree to another that has all its folders and no new links. -/
def changes (before after : FileTree) : List FileChange :=
  newFolders before after ++ newFiles before after ++ goneFiles before after

end FileTree

end AnswerGraph
