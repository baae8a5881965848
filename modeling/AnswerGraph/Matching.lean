import AnswerGraph.Answer.Basic
import AnswerGraph.Pattern.PatternSet
import AnswerGraph.Template.Basic

/-!
Matching question templates with pattern blocks and answers. A template gets the blocks whose only
key is its broader type and the blocks with more keys that list both of its types; it gets the
answers that name both of its types.
-/

namespace AnswerGraph

/-- A template with what is matched to it, by number. -/
structure MatchedTemplate where
  template : QuestionTemplate
  patterns : List Nat
  answers : List Nat
  /-- Some matched answer has a final result. -/
  hasFinalAnswer : Bool
  deriving DecidableEq, Repr

/-- An answer with the numbers of the templates that it answers. -/
structure MatchedAnswer where
  answer : Answer
  templates : List Nat
  deriving DecidableEq, Repr

structure Matching where
  templates : List MatchedTemplate
  answers : List MatchedAnswer
  deriving DecidableEq, Repr

namespace QuestionTemplate

def attaches (template : QuestionTemplate) (block : Block) : Bool :=
  block.hasKey template.broaderType &&
    (!block.isMultiKey || block.hasKey template.specificType)

/-- The patterns of the blocks that attach to a template, in the order of the blocks. -/
def attachedPatterns (template : QuestionTemplate) (set : PatternSet) : List Nat :=
  (set.blocks.filter template.attaches).map Block.pattern

def isAnsweredBy (template : QuestionTemplate) (answer : Answer) : Bool :=
  answer.refersTo template.broaderType template.specificType

end QuestionTemplate

/-- The positions of the members that satisfy a test. -/
def positionsOf (test : α → Bool) (members : List α) : List Nat :=
  (members.zipIdx.filter fun (member, _) => test member).map Prod.snd

namespace Matching

def matchTemplate (set : PatternSet) (answers : List Answer) (template : QuestionTemplate) :
    MatchedTemplate :=
  { template
    patterns := template.attachedPatterns set
    answers := positionsOf template.isAnsweredBy answers
    hasFinalAnswer :=
      answers.any fun answer => template.isAnsweredBy answer && answer.hasFinalResult }

def matchAnswer (templates : List QuestionTemplate) (answer : Answer) : MatchedAnswer :=
  { answer, templates := positionsOf (·.isAnsweredBy answer) templates }

def of (set : PatternSet) (templates : List QuestionTemplate) (answers : List Answer) : Matching :=
  { templates := templates.map (matchTemplate set answers)
    answers := answers.map (matchAnswer templates) }

/-- Templates with a final answer. -/
def answered (matching : Matching) : List MatchedTemplate :=
  matching.templates.filter MatchedTemplate.hasFinalAnswer

/-- Answers that belong to no template. -/
def unmatchedAnswers (matching : Matching) : List MatchedAnswer :=
  matching.answers.filter (·.templates.isEmpty)

end Matching

end AnswerGraph
