import AnswerGraph.Store.Update

/-!
What a store is asked and what it answers, and what a map from indexes and ids to documents answers
to the same.
-/

namespace AnswerGraph

/-! ## What is asked and answered -/

inductive StoreOperation where
  | put (index id : String) (document : Json) (overwrite : Bool)
  | remove (index id : String)
  | get (index id : String)
  | getAll (index : String)
  | ids (index : String)
  /-- Opens the store again, on the same folder and with the same names. -/
  | reopen

inductive StoreAnswer where
  | done (result : Except StoreError Bool)
  | found (result : Except StoreError (Option Json))
  | foundAll (result : Except StoreError (List Json))
  | listed (result : Except StoreError (List String))
  | opened (result : Except StoreError Unit)

namespace StoreOperation

def run (names : List String) (state : StoreState) : StoreOperation → StoreAnswer × StoreState
  | put index id document overwrite =>
    let (result, after) := (Store.put index id document overwrite).run state
    (.done result, after)
  | remove index id =>
    let (result, after) := (Store.remove index id).run state
    (.done result, after)
  | get index id => (.found (state.store.get state.files index id), state)
  | getAll index => (.foundAll (state.store.getAll state.files index), state)
  | ids index => (.listed (state.store.ids index), state)
  | reopen =>
    match Store.load state.files state.store.root names with
    | .ok store => (.opened (.ok ()), { state with store })
    | .error fault => (.opened (.error fault), state)

theorem run_put (names : List String) (state : StoreState) (index id : String) (document : Json)
    (overwrite : Bool) :
    (put index id document overwrite).run names state =
      (.done ((Store.put index id document overwrite).run state).1,
        ((Store.put index id document overwrite).run state).2) := rfl

/-- The answers to some operations, one after the other. -/
def answers (names : List String) : List StoreOperation → StoreState → List StoreAnswer
  | [], _ => []
  | operation :: rest, state =>
    (operation.run names state).1 :: answers names rest (operation.run names state).2

/-- The document that is put, if any, is read back from its own text. -/
def Readable : StoreOperation → Prop
  | put _ _ document _ => Json.parse? (document.render true) = some document
  | _ => True

end StoreOperation

/-- A document is stored or deleted, or that is refused because of its id or its index. -/
def StoreAnswer.Regular : StoreAnswer → Prop
  | done (.error (.invalidId _)) => True
  | done (.error (.unknownIndex _)) => True
  | done (.error _) => False
  | _ => True

/-! ## Answers of a map -/

/-- Documents by index and id. -/
abbrev Shelf := String → String → Option Json

namespace Shelf

def empty : Shelf := fun _ _ => none

def set (shelf : Shelf) (index id : String) (document : Option Json) : Shelf := fun other key =>
  if other = index ∧ key = id then document else shelf other key

theorem set_same (shelf : Shelf) (index id : String) (document : Option Json) :
    shelf.set index id document index =
      fun key => if key = id then document else shelf index key := by
  funext key
  simp [set]

theorem set_other (shelf : Shelf) {index other : String} (different : other ≠ index) (id : String)
    (document : Option Json) : shelf.set index id document other = shelf other := by
  funext key
  simp [set, different]

theorem set_none {shelf : Shelf} {index id : String} (absent : shelf index id = none) :
    shelf.set index id none = shelf := by
  funext other key
  simp only [set]
  split
  · next both => rw [both.1, both.2, absent]
  · rfl

/-- The ids of the documents of an index, in order. -/
structure Ids (shelf : Shelf) (index : String) (ids : List String) : Prop where
  sorted : ids.Pairwise (· < ·)
  present : ∀ id, id ∈ ids ↔ (shelf index id).isSome = true

/-- What a map with indexes of some names answers, and what becomes of it. -/
inductive Answers (names : List String) (shelf : Shelf) :
    StoreOperation → StoreAnswer → Shelf → Prop
  | putInvalid {index id : String} {document : Json} {overwrite : Bool}
      (invalid : Store.isValidId id = false) :
      Answers names shelf (.put index id document overwrite) (.done (.error (.invalidId id))) shelf
  | putUnknown {index id : String} {document : Json} {overwrite : Bool}
      (valid : Store.isValidId id = true) (unknown : index ∉ names) :
      Answers names shelf (.put index id document overwrite) (.done (.error (.unknownIndex index)))
        shelf
  | putKept {index id : String} {document : Json} (valid : Store.isValidId id = true)
      (known : index ∈ names) (present : (shelf index id).isSome = true) :
      Answers names shelf (.put index id document false) (.done (.ok false)) shelf
  | putStored {index id : String} {document : Json} {overwrite : Bool}
      (valid : Store.isValidId id = true) (known : index ∈ names)
      (allowed : (shelf index id).isSome = true → overwrite = true) :
      Answers names shelf (.put index id document overwrite) (.done (.ok true))
        (shelf.set index id (some document))
  | removeUnknown {index id : String} (unknown : index ∉ names) :
      Answers names shelf (.remove index id) (.done (.error (.unknownIndex index))) shelf
  | removed {index id : String} (known : index ∈ names) :
      Answers names shelf (.remove index id) (.done (.ok (shelf index id).isSome))
        (shelf.set index id none)
  | getUnknown {index id : String} (unknown : index ∉ names) :
      Answers names shelf (.get index id) (.found (.error (.unknownIndex index))) shelf
  | found {index id : String} (known : index ∈ names) :
      Answers names shelf (.get index id) (.found (.ok (shelf index id))) shelf
  | allUnknown {index : String} (unknown : index ∉ names) :
      Answers names shelf (.getAll index) (.foundAll (.error (.unknownIndex index))) shelf
  | foundAll {index : String} {ids : List String} (known : index ∈ names)
      (present : shelf.Ids index ids) :
      Answers names shelf (.getAll index) (.foundAll (.ok (ids.filterMap (shelf index)))) shelf
  | idsUnknown {index : String} (unknown : index ∉ names) :
      Answers names shelf (.ids index) (.listed (.error (.unknownIndex index))) shelf
  | listed {index : String} {ids : List String} (known : index ∈ names)
      (present : shelf.Ids index ids) : Answers names shelf (.ids index) (.listed (.ok ids)) shelf
  | reopened : Answers names shelf .reopen (.opened (.ok ())) shelf

/-- The answers to some operations are those of a map. -/
inductive AnswersAll (names : List String) : Shelf → List StoreOperation → List StoreAnswer → Prop
  | nil {shelf : Shelf} : AnswersAll names shelf [] []
  | cons {shelf after : Shelf} {operation : StoreOperation} {answer : StoreAnswer}
      {operations : List StoreOperation} {answers : List StoreAnswer}
      (first : Answers names shelf operation answer after)
      (rest : AnswersAll names after operations answers) :
      AnswersAll names shelf (operation :: operations) (answer :: answers)

end Shelf

end AnswerGraph
