import AnswerGraph.Configuration.Basic
import AnswerGraph.Text.Blank
import AnswerGraph.Url.Basic

/-!
What makes a configuration usable: it has a name, both bases of identifiers are absolute and stay so
when a number is appended, the bases differ, and the store has the index that answers are read from.
-/

namespace AnswerGraph

inductive ConfigurationError where
  | unnamed
  | relativeBase (field base : String)
  /-- A base to which nothing can be appended. -/
  | closedBase (field base : String)
  | equalBases
  | missingIndex (index : String) (indexes : List String)
  deriving DecidableEq, Repr

def ConfigurationError.message : ConfigurationError → String
  | unnamed => "Configuration has no name"
  | relativeBase field base => s!"{field} is not an absolute IRI: {base}"
  | closedBase field base => s!"{field} must end with '/', '#' or ':' to mint identifiers: {base}"
  | equalBases => "Variable and subject identifier bases must differ"
  | missingIndex index indexes =>
    let names := ", ".intercalate indexes
    s!"Answers index '{index}' is not one of the store indexes: {names}"

namespace Configuration

def checkBase (field base : String) : Except ConfigurationError Unit :=
  match Url.ofText? base.toList with
  | none => .error (.relativeBase field base)
  | some url =>
    if url.rootless && base.toList.getLast? != some ':' then .error (.closedBase field base)
    else .ok ()

def checkStore (settings : StoreSettings) : Except ConfigurationError Unit :=
  if settings.indexes.contains settings.answersIndex then .ok ()
  else .error (.missingIndex settings.answersIndex settings.indexes)

/-- Accepts a usable configuration. -/
def check (configuration : Configuration) : Except ConfigurationError Unit := do
  let identifiers := configuration.identifiers
  if Text.isAllBlank configuration.name.toList then throw .unnamed
  checkBase "identifiers.variable_base" identifiers.variableBase
  checkBase "identifiers.subject_base" identifiers.subjectBase
  if identifiers.variableBase = identifiers.subjectBase then throw .equalBases
  match configuration.store with
  | some settings => checkStore settings
  | none => return ()

end Configuration

end AnswerGraph
