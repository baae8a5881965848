import AnswerGraph.Answer.Basic
import AnswerGraph.Document

/-!
Answer sources as documents: the names of their fields, which of them may be missing, and the value
in which a source is shown again.
-/

namespace AnswerGraph

open Document (Slot)

namespace KnowledgeObject

def fields : List String := ["id", "category", "labels", "annotation_ids"]

def ofDocument? (document : Document) : Option KnowledgeObject := do
  let [id, category, labels, annotationIds] ← document.slots? fields | none
  some {
    id := ← id.required? Document.integer?
    category := ← category.required? Document.text?
    labels := ← labels.getD? [] Document.texts?
    annotationIds := ← annotationIds.getD? [] Document.integers? }

def toJson (object : KnowledgeObject) : Json :=
  .object [
    ("id", .integer object.id),
    ("category", .string object.category),
    ("labels", .strings object.labels),
    ("annotation_ids", .array (object.annotationIds.map .integer))]

end KnowledgeObject

namespace DetailRecord

def fields : List String :=
  ["id", "textual_representation", "question_id", "knowledgeObject_ids", "context_id",
    "answer_source"]

def ofDocument? (document : Document) : Option DetailRecord := do
  let [id, text, questionId, knowledgeObjectIds, contextId, origin] ← document.slots? fields | none
  some {
    id := ← id.required? Document.integer?
    text := ← text.required? Document.text?
    questionId := ← questionId.getD? 0 Document.integer?
    knowledgeObjectIds := ← knowledgeObjectIds.getD? [] Document.integers?
    contextId := ← contextId.getD? 0 Document.integer?
    origin := ← origin.getD? "" Document.text? }

def toJson (record : DetailRecord) : Json :=
  .object [
    ("id", .integer record.id),
    ("textual_representation", .string record.text),
    ("question_id", .integer record.questionId),
    ("knowledgeObject_ids", .array (record.knowledgeObjectIds.map .integer)),
    ("context_id", .integer record.contextId),
    ("answer_source", .string record.origin)]

end DetailRecord

namespace AnswerRecord

def fields : List String := ["final_answer", "question_template", "final_result"]

def ofDocument? (document : Document) : Option AnswerRecord := do
  let [detailIds, templateNames, finalResult] ← document.slots? fields | none
  some {
    detailIds := ← detailIds.required? Document.integers?
    templateNames := ← templateNames.required? Document.texts?
    finalResult := ← finalResult.required? Document.text? }

def toJson (record : AnswerRecord) : Json :=
  .object [
    ("final_answer", .array (record.detailIds.map .integer)),
    ("question_template", .strings record.templateNames),
    ("final_result", .string record.finalResult)]

end AnswerRecord

namespace AnswerSource

def fields : List String := ["knowledgeObjects", "answer_documents", "answers"]

def ofDocument? (document : Document) : Option AnswerSource := do
  let [knowledgeObjects, answers, details] ← document.slots? fields | none
  some {
    knowledgeObjects := ← knowledgeObjects.getD? [] (Document.listOf? KnowledgeObject.ofDocument?)
    answers := ← answers.required? (Document.listOf? AnswerRecord.ofDocument?)
    details := ← details.getD? [] (Document.listOf? DetailRecord.ofDocument?) }

def toJson (source : AnswerSource) : Json :=
  .object [
    ("knowledgeObjects", .array (source.knowledgeObjects.map KnowledgeObject.toJson)),
    ("answer_documents", .array (source.answers.map AnswerRecord.toJson)),
    ("answers", .array (source.details.map DetailRecord.toJson))]

end AnswerSource

end AnswerGraph
