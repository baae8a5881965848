import AnswerGraph.Graph.Basic
import AnswerGraph.Matching
import AnswerGraph.Pattern.Binding
import AnswerGraph.Source

/-!
Assembling a graph. Every answered template binds each of its answers to each of its patterns;
after every binding all resolved statements of the pattern are collected. A pattern that attaches to
several templates keeps what earlier bindings added to it.
-/

namespace AnswerGraph

/-- The bases of all identifiers that a build makes up. -/
structure Identifiers where
  variableBase : String := Variables.defaultBase
  subjectBase : String := Minter.defaultBase
  deriving DecidableEq, Repr

/-- One binding of an answer to a pattern, by the pattern's number. -/
structure BindingStep where
  pattern : Nat
  answer : Answer
  deriving DecidableEq, Repr

namespace Matching

/-- The bindings of a template: pattern by pattern, and for each the answers in order. -/
def stepsOf (matching : Matching) (matched : MatchedTemplate) : List BindingStep :=
  matched.patterns.flatMap fun pattern =>
    matched.answers.filterMap fun number =>
      (matching.answers[number]?).map fun found => ⟨pattern, found.answer⟩

/-- The bindings of all answered templates. -/
def bindingSteps (matching : Matching) : List BindingStep :=
  matching.answered.flatMap matching.stepsOf

end Matching

/-- The state of a build between two bindings. -/
structure Assembly where
  patterns : List TriplePattern
  minter : Minter
  graph : Graph
  bindings : Nat := 0
  deriving DecidableEq, Repr

namespace Assembly

def start (subjectBase : String) (set : PatternSet) : Assembly :=
  { patterns := set.patterns
    minter := { base := subjectBase }
    graph := { namespaces := set.namespaces } }

/-- Binds an answer and collects the pattern. -/
def bind (assembly : Assembly) (step : BindingStep) : Assembly :=
  let pattern := (assembly.patterns[step.pattern]?).getD []
  let (bound, minter) := TriplePattern.bind pattern step.answer assembly.minter
  { patterns := assembly.patterns.set step.pattern bound
    minter
    graph := assembly.graph.add (TriplePattern.resolved bound)
    bindings := assembly.bindings + 1 }

def run (subjectBase : String) (set : PatternSet) (steps : List BindingStep) : Assembly :=
  steps.foldl bind (start subjectBase set)

end Assembly

/-- What a build counts. -/
structure BuildCounts where
  templates : Nat
  answers : Nat
  answeredTemplates : Nat
  bindings : Nat
  mintedSubjects : Nat
  statistics : Statistics
  deriving DecidableEq, Repr

/-- A graph with the counts of the build that made it. -/
structure Build where
  graph : Graph
  counts : BuildCounts
  deriving DecidableEq, Repr

namespace Build

/-- Builds the graph of loaded inputs. -/
def ofParts (identifiers : Identifiers) (set : PatternSet) (templates : List QuestionTemplate)
    (source : AnswerSource) : Build :=
  let matching := Matching.of set templates source.resolve
  let assembly := Assembly.run identifiers.subjectBase set matching.bindingSteps
  { graph := assembly.graph
    counts := {
      templates := matching.templates.length
      answers := matching.answers.length
      answeredTemplates := matching.answered.length
      bindings := assembly.bindings
      mintedSubjects := assembly.minter.count
      statistics := assembly.graph.statistics } }

/-- Loads patterns, answers and templates, in this order, and builds their graph. -/
def ofSources (identifiers : Identifiers) (files : FileTree)
    (answers templates patterns : Source) : Except GraphError Build := do
  let set ← patterns.loadPatterns files identifiers.variableBase
  let source ← (answers.loadAnswers files).mapError .input
  let templates ← (templates.loadTemplates files).mapError .input
  .ok (ofParts identifiers set templates source)

end Build

end AnswerGraph
