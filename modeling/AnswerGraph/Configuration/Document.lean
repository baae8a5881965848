import AnswerGraph.Configuration.Basic
import AnswerGraph.Document

/-!
Settings as documents: the names of their fields, the values of fields that are left out, and the
JSON value that shows them again. Optional parts that are not set are not shown.
-/

namespace AnswerGraph

open Document (Slot)

namespace Identifiers

def fields : List String := ["variable_base", "subject_base"]

def ofDocument? (document : Document) : Option Identifiers := do
  let [variableBase, subjectBase] ← document.slots? fields | none
  some {
    variableBase := ← variableBase.getD? Variables.defaultBase Document.text?
    subjectBase := ← subjectBase.getD? Minter.defaultBase Document.text? }

def toJson (identifiers : Identifiers) : Json :=
  .object [
    ("variable_base", .string identifiers.variableBase),
    ("subject_base", .string identifiers.subjectBase)]

end Identifiers

namespace OutputSettings

def fields : List String := ["mode", "format", "pretty"]

def ofDocument? (document : Document) : Option OutputSettings := do
  let [mode, format, pretty] ← document.slots? fields | none
  some {
    mode := ← mode.getD? .linked fun value => value.choice?.bind OutputMode.ofName?
    format := ← format.getD? .jsonLd fun value => value.choice?.bind LinkedFormat.ofName?
    pretty := ← pretty.getD? true Document.flag? }

def toJson (settings : OutputSettings) : Json :=
  .object [
    ("mode", .string settings.mode.name),
    ("format", .string settings.format.name),
    ("pretty", .bool settings.pretty)]

end OutputSettings

/-- A member that is left out if there is no value. -/
def Json.memberIfSome (name : String) (value : Option Json) : List (String × Json) :=
  match value with
  | some value => [(name, value)]
  | none => []

namespace InputPaths

def fields : List String := ["question_templates", "patterns"]

def ofDocument? (document : Document) : Option InputPaths := do
  let [questionTemplates, patterns] ← document.slots? fields | none
  some {
    questionTemplates := ← questionTemplates.optional? Document.text?
    patterns := ← patterns.optional? Document.text? }

def toJson (paths : InputPaths) : Json :=
  .object (
    Json.memberIfSome "question_templates" (paths.questionTemplates.map .string) ++
    Json.memberIfSome "patterns" (paths.patterns.map .string))

end InputPaths

namespace StoreSettings

def fields : List String := ["root", "answers_index", "indexes", "cache"]

def ofDocument? (document : Document) : Option StoreSettings := do
  let [root, answersIndex, indexes, cache] ← document.slots? fields | none
  let default : StoreSettings := { root := ← root.required? Document.text? }
  some {
    root := default.root
    answersIndex := ← answersIndex.getD? default.answersIndex Document.text?
    indexes := ← indexes.getD? default.indexes Document.texts?
    cache := ← cache.getD? default.cache Document.flag? }

def toJson (settings : StoreSettings) : Json :=
  .object [
    ("root", .string settings.root),
    ("answers_index", .string settings.answersIndex),
    ("indexes", .strings settings.indexes),
    ("cache", .bool settings.cache)]

end StoreSettings

namespace Configuration

def fields : List String :=
  ["name", "description", "version", "identifiers", "output", "sources", "store"]

def ofDocument? (document : Document) : Option Configuration := do
  let [name, description, version, identifiers, output, sources, store] ←
    document.slots? fields | none
  some {
    name := ← name.required? Document.text?
    description := ← description.getD? "" Document.text?
    version := ← version.required? Document.text?
    identifiers := ← identifiers.getD? {} Identifiers.ofDocument?
    output := ← output.getD? {} OutputSettings.ofDocument?
    sources := ← sources.getD? {} InputPaths.ofDocument?
    store := ← store.optional? StoreSettings.ofDocument? }

def toJson (configuration : Configuration) : Json :=
  .object ([
    ("name", .string configuration.name),
    ("description", .string configuration.description),
    ("version", .string configuration.version),
    ("identifiers", configuration.identifiers.toJson),
    ("output", configuration.output.toJson),
    ("sources", configuration.sources.toJson)] ++
    Json.memberIfSome "store" (configuration.store.map StoreSettings.toJson))

end Configuration

end AnswerGraph
