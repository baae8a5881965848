import AnswerGraph.Document
import AnswerGraph.Json.Printer
import AnswerGraph.Report.Basic
import AnswerGraph.Time.Reader

/-!
Reports as documents.
-/

namespace AnswerGraph

open Document (Slot)

namespace Statistics

def fields : List String :=
  ["collected_triples", "total_triples", "unique_subjects", "unique_predicates", "unique_objects"]

def ofDocument? (document : Document) : Option Statistics := do
  let [collected, distinct, subjects, predicates, objects] ← document.slots? fields | none
  some {
    collected := ← collected.required? Document.natural?
    distinct := ← distinct.required? Document.natural?
    subjects := ← subjects.required? Document.natural?
    predicates := ← predicates.required? Document.natural?
    objects := ← objects.required? Document.natural? }

def toJson (statistics : Statistics) : Json :=
  .object [
    ("collected_triples", .natural statistics.collected),
    ("total_triples", .natural statistics.distinct),
    ("unique_subjects", .natural statistics.subjects),
    ("unique_predicates", .natural statistics.predicates),
    ("unique_objects", .natural statistics.objects)]

end Statistics

namespace BuildReport

def fields : List String :=
  ["id", "built_at", "processing_time_seconds", "templates", "answers", "answered_templates",
    "bindings", "minted_subjects", "stats"]

def moment? (document : Document) : Option Moment := do
  Moment.ofText? (← document.text?).toList

def ofDocument? (document : Document) : Option BuildReport := do
  let [id, builtAt, seconds, templates, answers, answered, bindings, minted, statistics] ←
    document.slots? fields | none
  some {
    id := ← id.required? Document.text?
    builtAt := ← builtAt.required? moment?
    seconds := ← seconds.required? Document.real?
    counts := {
      templates := ← templates.required? Document.natural?
      answers := ← answers.required? Document.natural?
      answeredTemplates := ← answered.required? Document.natural?
      bindings := ← bindings.required? Document.natural?
      mintedSubjects := ← minted.required? Document.natural?
      statistics := ← statistics.required? Statistics.ofDocument? } }

/-- The report of a JSON text. -/
def ofJson? (text : String) : Option BuildReport := do
  ofDocument? (← Document.ofJson? text)

def toJson (report : BuildReport) : Json :=
  .object [
    ("id", .string report.id),
    ("built_at", .string (report.builtAt.text "Z")),
    ("processing_time_seconds", .number (.real report.seconds)),
    ("templates", .natural report.counts.templates),
    ("answers", .natural report.counts.answers),
    ("answered_templates", .natural report.counts.answeredTemplates),
    ("bindings", .natural report.counts.bindings),
    ("minted_subjects", .natural report.counts.mintedSubjects),
    ("stats", report.counts.statistics.toJson)]

end BuildReport

end AnswerGraph
