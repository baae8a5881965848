import AnswerGraph.Store.Basic

/-!
Changing a store: storing a document, deleting one, and rebuilding an index from the files that are
there. A change that fails half way keeps what it has done so far, in memory and on disk.
-/

namespace AnswerGraph

/-- A store and the files that it works on. -/
structure StoreState where
  store : Store
  files : FileTree
  deriving Repr

/-- An action on a store. An error does not undo what was done before it. -/
abbrev StoreAction := ExceptT StoreError (StateM StoreState)

namespace StoreAction

def run (action : StoreAction α) (state : StoreState) : Except StoreError α × StoreState :=
  action state

def state : StoreAction StoreState := fun state => (.ok state, state)

/-- The entries of an index. -/
def entries (index : String) : StoreAction DocumentIndex := fun state =>
  (state.store.entries index, state)

/-- Puts entries into memory. -/
def setEntries (index : String) (entries : DocumentIndex) : StoreAction Unit := fun state =>
  (.ok (), { state with store := state.store.withEntries index entries })

def makeFolders (path : String) : StoreAction Unit := fun state =>
  let (files, result) := state.files.makeFolders path
  (result.mapError fun _ => .fault path, { state with files })

def writeText (path text : String) : StoreAction Unit := fun state =>
  match state.files.writeText path text with
  | .ok files => (.ok (), { state with files })
  | .error _ => (.error (.fault path), state)

/-- Deletes a file, unless there is none. -/
def removeFile (path : String) : StoreAction Unit := fun state =>
  match state.files.removeFile path with
  | .ok files => (.ok (), { state with files })
  | .error .notFound => (.ok (), state)
  | .error _ => (.error (.fault path), state)

/-- Keeps entries, first in memory and then in the index file. -/
def saveEntries (index : String) (entries : DocumentIndex) : StoreAction Unit := do
  setEntries index entries
  let path := Store.indexFile (← state).store.root index
  if let some folder := Path.parent? path then makeFolders folder
  writeText path ((Json.object (entries.map fun (id, path) => (id, .string path))).render true)

end StoreAction

namespace Store

open StoreAction

/-- Stores a document under an id. A document that is there is kept unless `overwrite` is set;
whether the document was stored is returned. -/
def put (index id : String) (document : Json) (overwrite : Bool) : StoreAction Bool := do
  if !isValidId id then throw (.invalidId id)
  let entries ← StoreAction.entries index
  if (entries.lookup id).isSome && !overwrite then return false
  let folder := folder (← state).store.root index
  makeFolders folder
  let path := Path.join folder (id ++ ".json")
  writeText path (document.render true)
  saveEntries index (Keyed.insert id path entries)
  return true

/-- Deletes a document; whether there was one is returned. The entry goes when the file is gone. -/
def remove (index id : String) : StoreAction Bool := do
  let entries ← StoreAction.entries index
  match entries.lookup id with
  | none => return false
  | some path =>
    removeFile path
    saveEntries index (Keyed.erase id entries)
    return true

/-- The id that a document gives itself. -/
def givenId? (document : Json) : Option String :=
  match document.member? "id" with
  | some (.string id) => some id
  | some (.number id) => some id.text
  | _ => none

/-- The id of the document in a file, if it can be read. A document that does not give itself an id
has the name of its file. -/
def idOfFile? (files : FileTree) (path : String) : Option String :=
  match readDocument files path with
  | .ok document =>
    match givenId? document with
    | some id => some id
    | none => Path.fileStem? path
  | .error _ => none

/-- The entries of the documents below a folder; there are none if there is no such folder. -/
def foundEntries (files : FileTree) (folder : String) : Except StoreError DocumentIndex :=
  if files.isFolder folder then
    match files.walk folder with
    | .error _ => .error .unwalkable
    | .ok paths =>
      let documents := paths.filter fun path => Path.extension? path == some "json"
      .ok (Keyed.ofList (documents.filterMap fun path => (idOfFile? files path).map (·, path)))
  else .ok []

/-- Makes the entries of an index anew from the files in its folder; returns how many there are. -/
def rebuild (index : String) : StoreAction Nat := do
  let _ ← StoreAction.entries index
  let state ← state
  let entries ← foundEntries state.files (folder state.store.root index)
  saveEntries index entries
  return entries.length

end Store

end AnswerGraph
