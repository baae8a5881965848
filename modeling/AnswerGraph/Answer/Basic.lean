/-!
Answers. An answer names details by id and a detail names knowledge objects by id; resolving an
answer source replaces the ids by what they name. The order of details and knowledge objects comes
from the source's own lists, not from the references, and an id that names nothing is dropped.
-/

namespace AnswerGraph

structure KnowledgeObject where
  id : Int
  category : String
  labels : List String := []
  annotationIds : List Int := []
  deriving DecidableEq, Repr

/-- A detail as it is delivered, with references to its knowledge objects. -/
structure DetailRecord where
  id : Int
  text : String
  questionId : Int := 0
  knowledgeObjectIds : List Int := []
  contextId : Int := 0
  origin : String := ""
  deriving DecidableEq, Repr

/-- An answer as it is delivered, with references to its details. -/
structure AnswerRecord where
  detailIds : List Int
  templateNames : List String
  finalResult : String
  deriving DecidableEq, Repr

structure AnswerSource where
  knowledgeObjects : List KnowledgeObject := []
  answers : List AnswerRecord
  details : List DetailRecord := []
  deriving DecidableEq, Repr

/-- A detail with its knowledge objects. -/
structure Detail where
  id : Int
  text : String
  questionId : Int
  contextId : Int
  origin : String
  knowledgeObjects : List KnowledgeObject
  deriving DecidableEq, Repr

namespace Detail

def hasKnowledgeObjects (detail : Detail) : Bool := !detail.knowledgeObjects.isEmpty

end Detail

/-- An answer with its details. -/
structure Answer where
  details : List Detail
  templateNames : List String
  finalResult : String
  deriving DecidableEq, Repr

namespace Answer

def hasFinalResult (answer : Answer) : Bool := !answer.finalResult.isEmpty

/-- Whether the answer names both types of a question template. -/
def refersTo (answer : Answer) (broader specific : String) : Bool :=
  answer.templateNames.contains broader && answer.templateNames.contains specific

/-- The details that a graph represents. -/
def representedDetails (answer : Answer) : List Detail :=
  answer.details.filter Detail.hasKnowledgeObjects

end Answer

namespace AnswerSource

def resolveDetail (source : AnswerSource) (record : DetailRecord) : Detail :=
  { id := record.id
    text := record.text
    questionId := record.questionId
    contextId := record.contextId
    origin := record.origin
    knowledgeObjects :=
      source.knowledgeObjects.filter fun object => record.knowledgeObjectIds.contains object.id }

def resolveAnswer (source : AnswerSource) (record : AnswerRecord) : Answer :=
  { details :=
      (source.details.filter fun detail => record.detailIds.contains detail.id).map
        source.resolveDetail
    templateNames := record.templateNames
    finalResult := record.finalResult }

def resolve (source : AnswerSource) : List Answer :=
  source.answers.map source.resolveAnswer

end AnswerSource

end AnswerGraph
