import AnswerGraph.Graph.Basic
import AnswerGraph.Url.Basic

/-!
What makes a list of statements RDF: three terms each, IRIs for subject and predicate, and IRIs that
are absolute and can be written between angle brackets as they are.
-/

namespace AnswerGraph

/-- A character that cannot stand between angle brackets. -/
def isForbiddenInIri (c : Char) : Bool :=
  c ≤ ' ' || "<>\"\x7b\x7d|^`\\".toList.contains c

def isAbsoluteIri (iri : String) : Bool :=
  !iri.toList.any isForbiddenInIri && (Url.ofText? iri.toList).isSome

/-- Why a statement is not RDF. -/
inductive RdfProblem where
  | notThreeTerms
  | literalSubject
  | literalPredicate
  | malformedIri
  deriving DecidableEq, Repr

def RdfProblem.message : RdfProblem → String
  | notThreeTerms => "statement does not have exactly three terms"
  | literalSubject => "literal in subject position"
  | literalPredicate => "literal in predicate position"
  | malformedIri => "malformed IRI"

/-- A statement of three terms. -/
structure Triple where
  subject : Term
  predicate : Term
  object : Term
  deriving DecidableEq, Repr

namespace Term

def isSound : Term → Bool
  | iri value => isAbsoluteIri value
  | literal _ => true

end Term

namespace Statement

/-- The first problem of a statement. -/
def problem? (statement : Statement) : Option RdfProblem :=
  match statement.triple? with
  | none => some .notThreeTerms
  | some (subject, predicate, object) =>
    if !subject.isIri then some .literalSubject
    else if !predicate.isIri then some .literalPredicate
    else if subject.isSound && predicate.isSound && object.isSound then none
    else some .malformedIri

end Statement

namespace Rdf

/-- One message for every statement with a problem, with its position. -/
def problems (statements : List Statement) : List String :=
  statements.zipIdx.filterMap fun (statement, position) =>
    statement.problem?.map fun problem =>
      s!"Triple {position}: {problem.message}: {statement.display}"

/-- The triples of statements that are all RDF; otherwise the first statement that is not, with its
problem. -/
def check : List Statement → Except (Statement × RdfProblem) (List Triple)
  | [] => .ok []
  | statement :: rest =>
    match statement.problem?, statement.triple? with
    | some problem, _ => .error (statement, problem)
    | none, some (subject, predicate, object) => do
      .ok (⟨subject, predicate, object⟩ :: (← check rest))
    | none, none => check rest

/-- The distinct triples of statements that are all RDF. -/
def triples (statements : List Statement) : Except (Statement × RdfProblem) (List Triple) :=
  (check statements).map firsts

/-- The members that belong to one subject, for every subject in the order of first appearance. -/
def bySubject (triples : List Triple) : List (Term × List Triple) :=
  (firsts (triples.map Triple.subject)).map fun subject =>
    (subject, triples.filter (·.subject == subject))

end Rdf

end AnswerGraph
