import AnswerGraph.Command.Basic
import AnswerGraph.Command.Job
import AnswerGraph.Report.Basic

/-!
What the commands do.
-/

namespace AnswerGraph

namespace Command

open Job

/-! ## Settings and inputs -/

/-- The configuration in a file, which must be usable; without a file the default one. -/
def configurationOf (path : Option String) : Job Configuration := do
  match path with
  | none => return {}
  | some path =>
    let configuration ← attempt (Configuration.load (← files) path) fun error => [error.message]
    attempt configuration.check fun error => [s!"Invalid configuration: {path}", error.message]
    return configuration

/-- The path of an input, from the command line or else from the configuration. -/
def inputPath (given configured : Option String) (what : String) : Job String :=
  match given.or configured with
  | some path => pure path
  | none => fail [s!"No {what} given on the command line or in the configuration"]

def templatesPath (given : Option String) (configuration : Configuration) : Job String :=
  inputPath given configuration.sources.questionTemplates "question templates"

def patternsPath (given : Option String) (configuration : Configuration) : Job String :=
  inputPath given configuration.sources.patterns "pattern file"

def storeSettings (configuration : Configuration) : Job StoreSettings :=
  match configuration.store with
  | some settings => pure settings
  | none => fail ["The configuration has no store section"]

/-- The document that a build takes its answers from. -/
def storedAnswers (configuration : Configuration) (id : String) : Job Json := do
  let settings ← storeSettings configuration
  let files ← files
  let store ← attempt (Store.load files settings.root settings.indexes) fun error =>
    [s!"Failed to open document store at {settings.root}", error.message]
  match ← attempt (store.get files settings.answersIndex id) fun error => [error.message] with
  | some document => return document
  | none => fail [s!"Document '{id}' not found in index '{settings.answersIndex}'"]

def answerSource (options : BuildOptions) (configuration : Configuration) : Job Source :=
  match options.answers, options.documentId with
  | some path, _ => pure (.file path)
  | none, some id => Source.json <$> storedAnswers configuration id
  | none, none => fail ["Either --answers or --document-id is required"]

/-! ## Commands -/

/-- The output settings of a configuration, as options change them. -/
def outputSettings (options : BuildOptions) (settings : OutputSettings) : OutputSettings :=
  { mode := options.mode.getD settings.mode
    format := options.format.getD settings.format
    pretty := settings.pretty && !options.compact }

def runBuild (stamp : BuildStamp) (options : BuildOptions) : Job Unit := do
  let configuration ← configurationOf options.configuration
  let settings := outputSettings options configuration.output
  let answers ← answerSource options configuration
  let templates ← templatesPath options.templates configuration
  let patterns ← patternsPath options.patterns configuration
  if options.output.isSome then print "Building knowledge graph..."
  let build ← attempt
    (Build.ofSources configuration.identifiers (← files) answers (.file templates) (.file patterns))
    fun error => ["Knowledge graph build failed", error.message]
  let text ← attempt (build.graph.render settings) fun error =>
    [s!"Failed to render graph as {settings.mode.name}", error.message]
  match options.output with
  | none => print text
  | some path =>
    writeText path text [s!"Failed to write output file: {path}"]
    print s!" Graph written to {path}"
    print { stamp with counts := build.counts : BuildReport }.display

/-- A number right-aligned in four columns. -/
def column (value : Nat) : String :=
  let digits := toString value
  String.ofList (List.replicate (4 - digits.length) ' ') ++ digits

def blockLine (set : PatternSet) (block : Block) : String :=
  let keys := ", ".intercalate block.keys
  let size := (set.pattern block.pattern).length
  s!"  line {column block.line}  {block.condition.joining.name} {keys}  ({size} triples)"

def runCheckPatterns (patterns : String) (configuration : Option String) : Job Unit := do
  print " Checking pattern file..."
  let configuration ← configurationOf configuration
  let set ← attempt
    ((Source.file patterns).loadPatterns (← files) configuration.identifiers.variableBase)
    fun error => [error.message]
  print s!" Pattern file is valid: {patterns}"
  print " Namespaces:"
  set.namespaces.entries.forM fun (namePrefix, root) => print s!"  {namePrefix} <{root}>"
  print " Variables:"
  set.variableTable.entries.forM fun (name, iri) => print s!"  <{name}> -> {iri}"
  print " Blocks:"
  set.blocks.forM fun block => print (blockLine set block)

def templateLine (matched : MatchedTemplate) : String :=
  let status := if matched.hasFinalAnswer then "answered" else "open"
  let patterns := matched.patterns.length
  let answers := matched.answers.length
  s!"  {matched.template.identity} [{status}] {patterns} patterns, {answers} answers"

def runMatch (answers : String) (templates patterns configuration : Option String) :
    Job Unit := do
  print " Matching answers against question templates..."
  let configuration ← configurationOf configuration
  let templates ← templatesPath templates configuration
  let patterns ← patternsPath patterns configuration
  let files ← files
  let set ← attempt
    ((Source.file patterns).loadPatterns files configuration.identifiers.variableBase)
    fun error => [error.message]
  let source ← attempt ((Source.file answers).loadAnswers files) fun error => [error.message]
  let templates ← attempt ((Source.file templates).loadTemplates files) fun error => [error.message]
  let matching := Matching.of set templates source.resolve
  matching.templates.forM fun matched => print (templateLine matched)
  let unmatched := matching.unmatchedAnswers
  if !unmatched.isEmpty then
    print " Answers without a template:"
    unmatched.forM fun matched =>
      print ("  " ++ ", ".intercalate matched.answer.templateNames)

/-- The id of a document in a file: the one given, its own, or the name of the file. -/
def documentId (given : Option String) (document : Json) (file : String) : Job String :=
  match (given.or (Store.givenId? document)).or (Path.fileStem? file) with
  | some id => pure id
  | none => fail ["Cannot derive a document id from the file name"]

/-- Puts the document of a file into a store. -/
def importFile (options : ImportOptions) (file : String) (store : Store) : Job Store := do
  print " Importing document..."
  let content ← attempt ((← files).readText file) fun _ => [s!"Failed to read document: {file}"]
  match Json.parse? content with
  | none => fail [s!"Document is not valid JSON: {file}"]
  | some document =>
    let id ← documentId options.id document file
    let (stored, store) ← act store (Store.put options.index id document options.overwrite)
    if stored then print s!" Stored {id} in index {options.index}"
    else
      print (s!" Document {id} already exists in index {options.index}" ++
        " (use --overwrite to replace it)")
    return store

def runImport (options : ImportOptions) : Job Unit := do
  let configuration ← configurationOf (some options.configuration)
  let settings ← storeSettings configuration
  let store ← attempt (Store.load (← files) settings.root settings.indexes) fun error =>
    [error.message]
  let store ←
    match options.file with
    | some file => importFile options file store
    | none => pure store
  if options.rebuild then
    let (count, _) ← act store (Store.rebuild options.index)
    print s!" Rebuilt index {options.index} with {count} documents"

def runValidate (path : String) : Job Unit := do
  print " Validating configuration..."
  let configuration ← attempt (Configuration.load (← files) path) fun error => [error.message]
  attempt configuration.check fun error => [error.message]
  print " Configuration is valid!"
  print s!" Name: {configuration.name}"
  print s!" Version: {configuration.version}"
  print s!" Output: {configuration.output.mode.name} ({configuration.output.format.name})"
  print s!" Subject base: {configuration.identifiers.subjectBase}"
  print s!" Variable base: {configuration.identifiers.variableBase}"
  if let some settings := configuration.store then
    print s!" Store: {settings.root} ({settings.indexes.length} indexes)"

/-- The path for a configuration in a format. A path without extension gets that of the format; an
extension that stands for another format is refused. -/
def pathInFormat (path : String) (format : Option ConfigurationFormat) : Except String String :=
  match format with
  | none => .ok path
  | some format =>
    let wanted :=
      match format with
      | .json => "json"
      | .yaml => "yaml"
    match Path.extension? path with
    | none => .ok (Path.withExtension path wanted)
    | some extension =>
      if ConfigurationFormat.ofPath path = format then .ok path
      else .error s!"--format {wanted} does not match the .{extension} extension of {path}"

def runGenerate (output : String) (format : Option ConfigurationFormat) : Job Unit := do
  print " Writing example kg-synth configuration..."
  let path ← attempt (pathInFormat output format) fun message => [message]
  let configuration := Configuration.sample
  change (configuration.save (← files) path) fun error => [error.message]
  print s!" Configuration: {path}"
  print (s!" Output: {configuration.output.mode.title} as {configuration.output.format.name}," ++
    s!" pretty: {configuration.output.pretty}")
  print s!" Subjects: {configuration.identifiers.subjectBase}"
  print s!" Variables: {configuration.identifiers.variableBase}"
  if let some settings := configuration.store then
    print s!" Store: {settings.root} (answers in '{settings.answersIndex}')"

/-- What a command does; `stamp` tells the run from others. -/
def job (stamp : BuildStamp) : Command → Job Unit
  | build options => runBuild stamp options
  | checkPatterns patterns configuration => runCheckPatterns patterns configuration
  | matchAnswers answers templates patterns configuration =>
    runMatch answers templates patterns configuration
  | importDocument options => runImport options
  | validate configuration => runValidate configuration
  | generate output format => runGenerate output format

/-! ## Runs -/

/-- How a run of the program ends. -/
structure Outcome where
  /-- The exit status: 1 if the command failed, and 2 if the arguments make no command. -/
  status : Nat
  output : String
  /-- The messages of a command that failed, the outermost first. -/
  errors : Option (List String)
  files : FileTree

def versionLine : String := "kg-synth 1.0.0\n"

def usage : String :=
  "Usage: kg-synth [-v] [-d] " ++
    "build|check-patterns|match|import|validate|generate-config [options]\n"

/-- What is told to a user when a run does not succeed. -/
def Outcome.explanation (outcome : Outcome) : String :=
  match outcome.status, outcome.errors with
  | 0, _ => ""
  | _, some (message :: causes) =>
    "Error: " ++ message ++ "\n" ++
      String.join (causes.map fun cause => "Caused by: " ++ cause ++ "\n")
  | _, _ => usage

/-- Runs a command. -/
def run (stamp : BuildStamp) (files : FileTree) (command : Command) : Outcome :=
  match (command.job stamp).run { files } with
  | (.ok (), session) => ⟨0, session.output, none, session.files⟩
  | (.error messages, session) => ⟨1, session.output, some messages, session.files⟩

/-- Runs the command that arguments stand for. -/
def runArguments (stamp : BuildStamp) (files : FileTree) (arguments : List String) : Outcome :=
  match ofArguments arguments with
  | .ok command => command.run stamp files
  | .error .version => ⟨0, versionLine, none, files⟩
  | .error .help => ⟨0, usage, none, files⟩
  | .error .misuse => ⟨2, "", none, files⟩

end Command

end AnswerGraph
