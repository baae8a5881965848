import AnswerGraph.Term

/-!
The positions of a compiled pattern line. A line may hold the answer placeholder; it turns into a
statement once every placeholder is replaced by the subject of an answer.
-/

namespace AnswerGraph

/-- The token that stands for the subject of an answer. -/
def answerMarker : String := "#ANSWER"

inductive Component where
  | literal (value : String)
  /-- A prefixed name, resolved to the root of its prefix. -/
  | namespaced (root name : String)
  /-- A variable with its name and its identifier. -/
  | named (name iri : String)
  /-- A fixed IRI: a minted subject or built-in vocabulary. -/
  | resource (iri : String)
  | placeholder
  deriving DecidableEq, Repr

namespace Component

/-- The term of a bound component; the placeholder has none. -/
def term? : Component → Option Term
  | literal value => some (.literal value)
  | namespaced root name => some (.iri (root ++ name))
  | named _ iri => some (.iri iri)
  | resource iri => some (.iri iri)
  | placeholder => none

def display : Component → String
  | literal value => value
  | namespaced root name => root ++ name
  | named _ iri => iri
  | resource iri => iri
  | placeholder => answerMarker

/-- Puts `subject` in the place of a placeholder. -/
def substitute (subject : Component) : Component → Component
  | placeholder => subject
  | other => other

end Component

/-- A compiled pattern line, with any number of components. -/
structure StatementPattern where
  components : List Component
  deriving DecidableEq, Repr

namespace StatementPattern

def hasPlaceholder (pattern : StatementPattern) : Bool :=
  pattern.components.any (· == .placeholder)

/-- Replaces every placeholder by `subject`. -/
def substitute (subject : Component) (pattern : StatementPattern) : StatementPattern :=
  ⟨pattern.components.map (Component.substitute subject)⟩

/-- The statement of a line without placeholder. -/
def resolve? (pattern : StatementPattern) : Option Statement :=
  (pattern.components.mapM Component.term?).map Statement.mk

end StatementPattern

end AnswerGraph
