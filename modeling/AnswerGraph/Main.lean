import AnswerGraph.Command.Footprint
import AnswerGraph.Files.Change
import Std.Time.DateTime.Timestamp

/-!
The program. It loads the files that a command looks at into a tree, lets the command run on the
tree, and carries out on the disk what the command changed.
-/

namespace AnswerGraph.Disk

def pathOf (location : Location) : String := "/" ++ "/".intercalate location

/-- What is at a location of the disk. Links lead to where they end; one that ends nowhere leads to
itself. -/
def entry? (location : Location) : IO (Option Entry) := do
  let path := pathOf location
  let .ok metadata ← (System.mkFilePath [path]).symlinkMetadata.toBaseIO | return none
  match metadata.type with
  | .dir => return some .folder
  | .file =>
    let .ok bytes ← (IO.FS.readBinFile path).toBaseIO | return none
    return some (.file (.ofBytes bytes))
  | .symlink =>
    match ← (IO.FS.realPath path).toBaseIO with
    | .ok target => return some (.link target.toString)
    | .error _ => return some (.link path)
  | .other => return none

/-- Loads what is met along steps from a folder, and tells where they lead. -/
partial def loadSteps (tree : FileTree) (here : Location) : List String → IO (FileTree × Location)
  | [] => return (tree, here)
  | name :: rest => do
    if name == "." then loadSteps tree here rest
    else if name == ".." then loadSteps tree here.dropLast rest
    else
      let next := here ++ [name]
      match ← entry? next with
      | none => return (tree, next)
      | some (.link target) =>
        let tree := tree.set next (.link target)
        if target == pathOf next then return (tree, next)
        else loadSteps tree [] (FileTree.steps target ++ rest)
      | some entry => loadSteps (tree.set next entry) next rest

def loadPath (tree : FileTree) (path : String) : IO (FileTree × Location) :=
  loadSteps tree (if Path.isAbsolute path then [] else tree.working) (FileTree.steps path)

/-- Loads folders with all that is below them; those of `known` are loaded already. -/
partial def loadFolders (tree : FileTree) (known : List Location) : List Location → IO FileTree
  | [] => return tree
  | location :: rest => do
    if known.contains location then loadFolders tree known rest
    else
      let mut tree := tree
      let mut inner := []
      if let .ok children ← (System.mkFilePath [pathOf location]).readDir.toBaseIO then
        for child in children do
          let (loaded, reached) ← loadSteps tree location [child.fileName]
          tree := loaded
          if tree.entry? reached == some .folder then inner := reached :: inner
      loadFolders tree (location :: known) (inner ++ rest)

def load (tree : FileTree) (footprint : Footprint) : IO FileTree := do
  let mut tree := tree
  for path in footprint.paths do
    tree := (← loadPath tree path).1
  for path in footprint.folders do
    let (loaded, location) ← loadPath tree path
    tree ← loadFolders loaded [] [location]
  return tree

/-- The files that a command looks at. -/
def filesFor (working : Location) (command : Command) : IO FileTree := do
  let mut tree := FileTree.empty working
  for _ in List.range Command.footprintRounds do
    tree ← load tree (command.footprint tree)
  return tree

def carryOut : FileChange → IO Unit
  | .makeFolder location => IO.FS.createDirAll (pathOf location)
  | .write location contents => IO.FS.writeBinFile (pathOf location) contents.toBytes
  | .remove location => IO.FS.removeFile (pathOf location)

/-- A stamp of now for a run that took some nanoseconds. -/
def stamp (nanoseconds : Nat) : IO BuildStamp := do
  let now ← Std.Time.Timestamp.now
  let random ← IO.getRandomBytes 16
  return {
    id := BuildStamp.randomId (random.foldl (fun value byte => value * 256 + byte.toNat) 0)
    builtAt := Moment.sinceEpoch now.toNanosecondsSinceUnixEpoch.val.toNat
    seconds := (Binary64.ofDecimal? false nanoseconds (-9)).getD ⟨false, 0, Binary64.minExponent⟩ }

end AnswerGraph.Disk

open AnswerGraph

/-- Runs the command that the arguments stand for. A first run, of which nothing is kept, shows how
long a run takes. -/
def main (arguments : List String) : IO UInt32 := do
  let working := Path.names (← IO.currentDir).toString
  let files ←
    match Command.ofArguments arguments with
    | .ok command => Disk.filesFor working command
    | .error _ => pure (FileTree.empty working)
  let start ← IO.monoNanosNow
  let trialStamp ← Disk.stamp 0
  let trial ← IO.lazyPure fun _ => Command.runArguments trialStamp files arguments
  let stamp ← Disk.stamp ((← IO.monoNanosNow) - start)
  let outcome := if trial.status = 0 then Command.runArguments stamp files arguments else trial
  IO.print outcome.output
  (files.changes outcome.files).forM Disk.carryOut
  IO.eprint outcome.explanation
  return UInt32.ofNat outcome.status
