import AnswerGraph.Store.Update

/-!
Jobs: what a command does, one step after the other. A job prints lines, changes files, and may fail
with messages, the outermost first. What was printed and written before a failure stays.
-/

namespace AnswerGraph

structure Session where
  files : FileTree
  /-- What was printed. -/
  output : String := ""
  deriving Repr

abbrev Job := ExceptT (List String) (StateM Session)

namespace Job

def run (job : Job α) (session : Session) : Except (List String) α × Session :=
  job session

def print (line : String) : Job Unit := fun session =>
  (.ok (), { session with output := session.output ++ line ++ "\n" })

def fail (messages : List String) : Job α := fun session => (.error messages, session)

def files : Job FileTree := fun session => (.ok session.files, session)

/-- Takes over a result, with messages for a failure. -/
def attempt (result : Except ε α) (explain : ε → List String) : Job α := fun session =>
  (result.mapError explain, session)

/-- Takes over new files with a result. -/
def change (changed : FileTree × Except ε α) (explain : ε → List String) : Job α := fun session =>
  (changed.2.mapError explain, { session with files := changed.1 })

def writeText (path text : String) (messages : List String) : Job Unit := fun session =>
  match session.files.writeText path text with
  | .ok files => (.ok (), { session with files })
  | .error _ => (.error messages, session)

/-- Lets an action work on a store and returns the store with the answer. -/
def act (store : Store) (action : StoreAction α) : Job (α × Store) := fun session =>
  let (result, state) := action.run ⟨store, session.files⟩
  ((result.mapError fun error => [error.message]).map (·, state.store),
    { session with files := state.files })

end Job

end AnswerGraph
