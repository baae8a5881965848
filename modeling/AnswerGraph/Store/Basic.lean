import AnswerGraph.Files.Walk
import AnswerGraph.Json.Printer
import AnswerGraph.Json.Reader

/-!
A store of JSON documents in a folder. Every index has a folder of documents, one a file, and an
index file that says which file holds the document of an id. The indexes are kept in memory as well;
the documents are not.
-/

namespace AnswerGraph

inductive StoreError where
  | unknownIndex (index : String)
  | invalidId (id : String)
  /-- A file or folder could not be read, written or deleted. -/
  | fault (path : String)
  | malformed (path : String)
  /-- The folder of an index could not be searched. -/
  | unwalkable
  deriving DecidableEq, Repr

def StoreError.message : StoreError → String
  | unknownIndex index => s!"unknown store index '{index}'"
  | invalidId id => s!"document id '{id}' cannot be used as a file name"
  | fault path => s!"store I/O failed on {path}"
  | malformed path => s!"malformed JSON document at {path}"
  | unwalkable => "failed to walk index folder"

/-- The paths of an index by document id, sorted by id. -/
abbrev DocumentIndex := List (String × String)

structure Store where
  root : String
  indexes : List (String × DocumentIndex) := []
  deriving DecidableEq, Repr

/-- The document in a file. -/
def readDocument (files : FileTree) (path : String) : Except StoreError Json :=
  match files.readText path with
  | .error _ => .error (.fault path)
  | .ok text =>
    match Json.parse? text with
    | some document => .ok document
    | none => .error (.malformed path)

namespace Store

def indexFile (root index : String) : String :=
  Path.join (Path.join root "indexes") (index ++ ".json")

/-- The folder in which the documents of an index lie. -/
def folder (root index : String) : String :=
  Path.join root index

/-- An id becomes a file name, so it may not be empty, lead elsewhere or be hidden. -/
def isValidId (id : String) : Bool :=
  !id.isEmpty && !id.toList.contains '/' && !id.toList.contains '\\' &&
    id.toList.head? != some '.'

/-- The entries of an index file. A file that is missing or makes no sense has none. -/
def readIndex (files : FileTree) (path : String) : Except StoreError DocumentIndex :=
  match files.readText path with
  | .ok text =>
    .ok (Keyed.ofList (((Document.ofJson? text).bind Document.textMembers?).getD []))
  | .error .notFound => .ok []
  | .error _ => .error (.fault path)

/-- Opens the store in a folder with the indexes of the given names. -/
def load (files : FileTree) (root : String) (names : List String) : Except StoreError Store := do
  let indexes ← names.mapM fun name => do
    return (name, ← readIndex files (indexFile root name))
  return { root, indexes }

def entries (store : Store) (index : String) : Except StoreError DocumentIndex :=
  match store.indexes.lookup index with
  | some entries => .ok entries
  | none => .error (.unknownIndex index)

def withEntries (store : Store) (index : String) (entries : DocumentIndex) : Store :=
  { store with
    indexes := store.indexes.map fun (name, old) => (name, if name = index then entries else old) }

/-- The ids of an index in order. -/
def ids (store : Store) (index : String) : Except StoreError (List String) := do
  return (← store.entries index).map (·.1)

def get (store : Store) (files : FileTree) (index id : String) :
    Except StoreError (Option Json) := do
  match (← store.entries index).lookup id with
  | some path => return some (← readDocument files path)
  | none => return none

/-- All documents of an index in the order of their ids. -/
def getAll (store : Store) (files : FileTree) (index : String) : Except StoreError (List Json) := do
  (← store.entries index).mapM fun (_, path) => readDocument files path

end Store

end AnswerGraph
