/-!
Terms and statements of a graph. A statement is a list of terms of any length; only one of three
terms can be RDF, and saying so is left to the checks in `Rdf`.
-/

namespace AnswerGraph

/-- An output term: an IRI or a plain literal. -/
inductive Term where
  | iri (value : String)
  | literal (value : String)
  deriving DecidableEq, Repr, Hashable

namespace Term

def text : Term → String
  | iri value => value
  | literal value => value

def isIri : Term → Bool
  | iri _ => true
  | literal _ => false

end Term

/-- A bound statement in the order subject, predicate, object. -/
structure Statement where
  terms : List Term
  deriving DecidableEq, Repr, Hashable

namespace Statement

def subject? (statement : Statement) : Option Term := statement.terms[0]?

def predicate? (statement : Statement) : Option Term := statement.terms[1]?

def object? (statement : Statement) : Option Term := statement.terms[2]?

/-- The three terms of a statement that has exactly three. -/
def triple? (statement : Statement) : Option (Term × Term × Term) :=
  match statement.terms with
  | [subject, predicate, object] => some (subject, predicate, object)
  | _ => none

/-- The row of texts that plain output shows. -/
def row (statement : Statement) : List String :=
  statement.terms.map Term.text

/-- The texts separated by blanks, as error messages quote a statement. -/
def display (statement : Statement) : String :=
  " ".intercalate statement.row

end Statement

namespace Vocabulary

def rdf : String := "http://www.w3.org/1999/02/22-rdf-syntax-ns#"

def rdfs : String := "http://www.w3.org/2000/01/rdf-schema#"

def rdfType : String := rdf ++ "type"

def rdfsLabel : String := rdfs ++ "label"

end Vocabulary

end AnswerGraph
