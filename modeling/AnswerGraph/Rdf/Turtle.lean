import AnswerGraph.Rdf.NTriples

/-!
Turtle: triples with the subject, or subject and predicate, of the triple before them leave these
out.
-/

namespace AnswerGraph

namespace Turtle

/-- A triple that starts a statement. -/
def writeFirst (triple : Triple) : List Char :=
  Rdf.writeTerm triple.subject ++ ' ' :: Rdf.writeTerm triple.predicate ++
    ' ' :: Rdf.writeTerm triple.object

/-- A triple behind another: what they share is left out. -/
def writeNext (previous triple : Triple) : List Char :=
  if previous.subject = triple.subject then
    if previous.predicate = triple.predicate then
      [' ', ',', ' '] ++ Rdf.writeTerm triple.object
    else
      [' ', ';', '\n', '\t'] ++ Rdf.writeTerm triple.predicate ++ ' ' :: Rdf.writeTerm triple.object
  else [' ', '.', '\n'] ++ writeFirst triple

def writeRest (previous : Triple) : List Triple → List Char
  | [] => [' ', '.', '\n']
  | triple :: rest => writeNext previous triple ++ writeRest triple rest

def write : List Triple → List Char
  | [] => []
  | triple :: rest => writeFirst triple ++ writeRest triple rest

end Turtle

end AnswerGraph
