import AnswerGraph.Files.Tree

/-!
Walking a folder: the paths of all files in it and in the folders below it, with links followed. A
link that leads nowhere, or back to a folder that is being walked, makes the walk fail.
-/

namespace AnswerGraph

namespace FileTree

/-- Where a child of a folder is: its own location, or the one that its link leads to. -/
def targetOf (tree : FileTree) (location : Location) (name : String) (entry : Entry) :
    Except FileError Location :=
  match entry with
  | .link _ => tree.follow true maxLinks [] (location ++ [name])
  | _ => .ok (location ++ [name])

mutual

/-- Walks the folder at a location, which is reached by `path` and lies in the folders `above`. -/
def walkFolder (fuel : Nat) (tree : FileTree) (above : List Location) (location : Location)
    (path : String) : Except FileError (List String) :=
  match fuel with
  | 0 => .error .loop
  | fuel + 1 => walkChildren fuel tree (location :: above) location path (tree.children location)

def walkChildren (fuel : Nat) (tree : FileTree) (above : List Location) (location : Location)
    (path : String) (children : List (String × Entry)) : Except FileError (List String) :=
  match children with
  | [] => .ok []
  | (name, entry) :: rest => do
    let target ← tree.targetOf location name entry
    let here ←
      match tree.entry? target, entry with
      | some (.file _), _ => .ok [Path.join path name]
      | some .folder, .link _ =>
        if above.contains target then .error .loop
        else walkFolder fuel tree above target (Path.join path name)
      | some .folder, _ => walkFolder fuel tree above target (Path.join path name)
      | _, _ => .error .notFound
    let more ← walkChildren fuel tree above location path rest
    .ok (here ++ more)

end

/-- The paths of all files below a folder, parents before children and siblings by name. -/
def walk (tree : FileTree) (path : String) : Except FileError (List String) := do
  let location ← tree.locate true path
  tree.walkFolder (2 * tree.entries.length + 2) [] location path

end FileTree

end AnswerGraph
