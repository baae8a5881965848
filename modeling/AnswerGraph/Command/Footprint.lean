import AnswerGraph.Command.Run

/-!
What a command looks at. The paths in a configuration are only known when its file is, so a
footprint grows with the files that are known.
-/

namespace AnswerGraph

/-- Paths that a command reads or writes. -/
structure Footprint where
  paths : List String := []
  /-- Folders with all that is below them. -/
  folders : List String := []
  deriving DecidableEq, Repr

namespace Footprint

def and (first second : Footprint) : Footprint :=
  { paths := first.paths ++ second.paths, folders := first.folders ++ second.folders }

def ofPaths (given : List (Option String)) : Footprint := { paths := given.filterMap id }

end Footprint

namespace Command

/-- What a configuration makes a command look at: its inputs, and the store with the documents that
an index names. -/
def configuredFootprint (files : FileTree) (configuration : Configuration) : Footprint :=
  let inputs :=
    Footprint.ofPaths [configuration.sources.questionTemplates, configuration.sources.patterns]
  match configuration.store with
  | none => inputs
  | some settings =>
    let documents :=
      match Store.load files settings.root settings.indexes with
      | .ok store => store.indexes.flatMap fun (_, entries) => entries.map (·.2)
      | .error _ => []
    inputs.and { paths := documents, folders := [settings.root] }

def fileFootprint (files : FileTree) : Option String → Footprint
  | none => {}
  | some path =>
    match Configuration.load files path with
    | .ok configuration =>
      (Footprint.ofPaths [some path]).and (configuredFootprint files configuration)
    | .error _ => Footprint.ofPaths [some path]

/-- What a command looks at, as far as the known files tell. -/
def footprint (files : FileTree) : Command → Footprint
  | build options =>
    (Footprint.ofPaths [options.answers, options.templates, options.patterns, options.output]).and
      (fileFootprint files options.configuration)
  | checkPatterns patterns configuration =>
    (Footprint.ofPaths [some patterns]).and (fileFootprint files configuration)
  | matchAnswers answers templates patterns configuration =>
    (Footprint.ofPaths [some answers, templates, patterns]).and (fileFootprint files configuration)
  | importDocument options =>
    (Footprint.ofPaths [options.file]).and (fileFootprint files (some options.configuration))
  | validate configuration => Footprint.ofPaths [some configuration]
  | generate output format =>
    Footprint.ofPaths [some ((pathInFormat output format).toOption.getD output)]

/-- The rounds in which a footprint is complete: the configuration first, then the files that it
names, then those that an index in the store names. -/
def footprintRounds : Nat := 3

end Command

end AnswerGraph
