/-!
Question templates: a class of questions, known by a broader and a specific type, with what is
expected of its answers.
-/

namespace AnswerGraph

structure QuestionTemplate where
  broaderType : String
  specificType : String
  /-- Sorted and without repetition, as are the strong dependencies. -/
  weakDependencies : List String := []
  strongDependencies : List String := []
  question : List String := []
  expectedAnswerSpace : List String := []
  preSearchSpace : List String := []
  normalState : String := ""
  dependsOnVariables : List String := []
  deriving DecidableEq, Repr

namespace QuestionTemplate

def identity (template : QuestionTemplate) : String :=
  template.broaderType ++ "/" ++ template.specificType

/-- Puts a name in its place among sorted names, if it is not there yet. -/
def insertName (name : String) : List String → List String
  | [] => [name]
  | first :: rest =>
    if name = first then first :: rest
    else if name < first then name :: first :: rest
    else first :: insertName name rest

/-- The names sorted by code point, each once. -/
def nameSet (names : List String) : List String :=
  names.foldl (fun sorted name => insertName name sorted) []

end QuestionTemplate

end AnswerGraph
