import AnswerGraph.Store.Basic

/-!
Documents that were read from a store, kept by index and id. Only documents that were found are
kept, and they are shown until they are dropped, whatever happens to the store.
-/

namespace AnswerGraph

structure DocumentCache where
  entries : List ((String × String) × Json) := []
  deriving Repr

namespace DocumentCache

def size (cache : DocumentCache) : Nat := cache.entries.length

def find? (cache : DocumentCache) (index id : String) : Option Json :=
  cache.entries.lookup (index, id)

/-- Drops one document. -/
def invalidate (cache : DocumentCache) (index id : String) : DocumentCache :=
  ⟨cache.entries.filter fun entry => entry.1 != (index, id)⟩

/-- Drops the documents of an index. -/
def invalidateIndex (cache : DocumentCache) (index : String) : DocumentCache :=
  ⟨cache.entries.filter fun entry => entry.1.1 != index⟩

/-- Reads a document through the cache: `read` is asked only if the document is not there. -/
def get (cache : DocumentCache) (read : String → String → Except StoreError (Option Json))
    (index id : String) : Except StoreError (Option Json) × DocumentCache :=
  match cache.find? index id with
  | some document => (.ok (some document), cache)
  | none =>
    match read index id with
    | .ok (some document) => (.ok (some document), ⟨((index, id), document) :: cache.entries⟩)
    | other => (other, cache)

end DocumentCache

end AnswerGraph
