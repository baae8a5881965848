import AnswerGraph.Pattern.Namespaces
import AnswerGraph.Term

/-!
The graph of a build: all statements in the order in which they were collected, with repetitions.
Whatever is shown of a graph depends on the first occurrence of each statement only.
-/

namespace AnswerGraph

/-- The first occurrence of every member, leaving out those in `seen`. -/
def firstsFrom [BEq α] (seen : List α) : List α → List α
  | [] => []
  | first :: rest =>
    if seen.contains first then firstsFrom seen rest
    else first :: firstsFrom (first :: seen) rest

/-- The first occurrence of every member. -/
def firsts [BEq α] (members : List α) : List α :=
  firstsFrom [] members

structure Graph where
  statements : List Statement := []
  namespaces : Namespaces := {}
  deriving DecidableEq, Repr

/-- Counts over a graph. -/
structure Statistics where
  collected : Nat
  distinct : Nat
  subjects : Nat
  predicates : Nat
  objects : Nat
  deriving DecidableEq, Repr

namespace Graph

def add (graph : Graph) (statements : List Statement) : Graph :=
  { graph with statements := graph.statements ++ statements }

/-- The distinct statements in the order of their first occurrence. -/
def distinct (graph : Graph) : List Statement :=
  firsts graph.statements

def statistics (graph : Graph) : Statistics :=
  let distinct := graph.distinct
  { collected := graph.statements.length
    distinct := distinct.length
    subjects := (firsts (distinct.filterMap Statement.subject?)).length
    predicates := (firsts (distinct.filterMap Statement.predicate?)).length
    objects := (firsts (distinct.filterMap Statement.object?)).length }

end Graph

def Statistics.display (statistics : Statistics) : String :=
  "\n".intercalate [
    "Knowledge Graph Statistics:",
    s!"Collected Triples: {statistics.collected}",
    s!"Total Triples: {statistics.distinct}",
    s!"Unique Subjects: {statistics.subjects}",
    s!"Unique Predicates: {statistics.predicates}",
    s!"Unique Objects: {statistics.objects}"]

end AnswerGraph
