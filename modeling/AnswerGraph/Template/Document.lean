import AnswerGraph.Document
import AnswerGraph.Template.Basic

/-!
Question templates as documents: a list of templates, or a record that holds the list under
`templates`. Both spellings are tried, so all of the document has to be sound, unread fields too.
-/

namespace AnswerGraph

open Document (Slot)

namespace QuestionTemplate

def fields : List String :=
  ["broader_questionType", "specific_questionType", "weak_dependency_to", "strong_dependency_to",
    "question", "expectedAnswerSpace", "preSearchSpace", "normalState", "dependend_from_variables"]

def ofDocument? (document : Document) : Option QuestionTemplate := do
  let [broader, specific, weak, strong, question, expected, search, normal, variableNames] ←
    document.slots? fields | none
  some {
    broaderType := ← broader.required? Document.text?
    specificType := ← specific.required? Document.text?
    weakDependencies := nameSet (← weak.getD? [] Document.texts?)
    strongDependencies := nameSet (← strong.getD? [] Document.texts?)
    question := ← question.getD? [] Document.texts?
    expectedAnswerSpace := ← expected.getD? [] Document.texts?
    preSearchSpace := ← search.getD? [] Document.texts?
    normalState := ← normal.getD? "" Document.text?
    dependsOnVariables := ← variableNames.getD? [] Document.texts? }

def toJson (template : QuestionTemplate) : Json :=
  .object [
    ("broader_questionType", .string template.broaderType),
    ("specific_questionType", .string template.specificType),
    ("weak_dependency_to", .strings template.weakDependencies),
    ("strong_dependency_to", .strings template.strongDependencies),
    ("question", .strings template.question),
    ("expectedAnswerSpace", .strings template.expectedAnswerSpace),
    ("preSearchSpace", .strings template.preSearchSpace),
    ("normalState", .string template.normalState),
    ("dependend_from_variables", .strings template.dependsOnVariables)]

/-- The templates of a document. -/
def listOfDocument? (document : Document) : Option (List QuestionTemplate) :=
  match document with
  | .list _ items => items.mapM ofDocument?
  | .record _ _ => do
    let [templates] ← document.slots? ["templates"] | none
    templates.required? (Document.listOf? ofDocument?)
  | .scalar _ => none

end QuestionTemplate

end AnswerGraph
