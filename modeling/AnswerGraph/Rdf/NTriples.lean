import AnswerGraph.Rdf.Check

/-!
N-Triples: one triple a line, IRIs in angle brackets and literals in quotes.
-/

namespace AnswerGraph

namespace Rdf

/-- A character of a quoted literal. -/
def escapeLiteralChar (c : Char) : List Char :=
  if c = '\n' then ['\\', 'n']
  else if c = '\r' then ['\\', 'r']
  else if c = '"' then ['\\', '"']
  else if c = '\\' then ['\\', '\\']
  else [c]

def quoteLiteral (text : String) : List Char :=
  '"' :: text.toList.flatMap escapeLiteralChar ++ ['"']

/-- A term as N-Triples and Turtle write it. -/
def writeTerm : Term → List Char
  | .iri value => '<' :: value.toList ++ ['>']
  | .literal value => quoteLiteral value

end Rdf

namespace NTriples

def writeTriple (triple : Triple) : List Char :=
  Rdf.writeTerm triple.subject ++ ' ' :: Rdf.writeTerm triple.predicate ++
    ' ' :: Rdf.writeTerm triple.object ++ [' ', '.', '\n']

def write (triples : List Triple) : List Char :=
  triples.flatMap writeTriple

end NTriples

namespace Statement

/-- A term on a line of its own, where only quotes are escaped. -/
def lineTerm : Term → List Char
  | .iri value => '<' :: value.toList ++ ['>']
  | .literal value =>
    '"' :: (value.toList.flatMap fun c => if c = '"' then ['\\', '"'] else [c]) ++ ['"']

/-- The line of a statement of any length. -/
def line (statement : Statement) : String :=
  String.ofList (([' '].intercalate (statement.terms.map lineTerm)) ++ [' ', '.'])

end Statement

end AnswerGraph
