import AnswerGraph.Command.Options
import AnswerGraph.Configuration.File

/-!
The commands of the program and the arguments that stand for them.
-/

namespace AnswerGraph

structure BuildOptions where
  answers : Option String
  /-- A document of the store, in the place of a file of answers. -/
  documentId : Option String
  templates : Option String
  patterns : Option String
  mode : Option OutputMode
  format : Option LinkedFormat
  output : Option String
  configuration : Option String
  compact : Bool
  deriving DecidableEq, Repr

structure ImportOptions where
  configuration : String
  index : String
  /-- The document; none if an index is only rebuilt. -/
  file : Option String
  id : Option String
  overwrite : Bool
  rebuild : Bool
  deriving DecidableEq, Repr

inductive Command where
  /-- Writes the graph of answers, templates and patterns. -/
  | build (options : BuildOptions)
  /-- Lists what a pattern file declares. -/
  | checkPatterns (patterns : String) (configuration : Option String)
  /-- Lists what is matched to each template. -/
  | matchAnswers (answers : String) (templates patterns configuration : Option String)
  /-- Puts a document into the store. -/
  | importDocument (options : ImportOptions)
  | validate (configuration : String)
  /-- Writes a configuration to start from. -/
  | generate (output : String) (format : Option ConfigurationFormat)
  deriving DecidableEq, Repr

namespace Command

/-! ## Options -/

def verboseOption : OptionSpec := { name := "verbose", letter := some 'v', kind := .flag }

def debugOption : OptionSpec := { name := "debug", letter := some 'd', kind := .flag }

def helpOption : OptionSpec := { name := "help", letter := some 'h', kind := .stop .help }

def versionOption : OptionSpec := { name := "version", letter := some 'V', kind := .stop .version }

def pathOption (name : String) (letter : Char) : OptionSpec :=
  { name, letter := some letter, kind := .path }

/-- Options that every command has. -/
def commonOptions : List OptionSpec := [verboseOption, debugOption, helpOption]

def buildOptions : List OptionSpec :=
  [pathOption "answers" 'a',
    { name := "document-id", kind := .text },
    pathOption "templates" 't',
    pathOption "patterns" 'p',
    { name := "mode", letter := some 'm', kind := .choice (OutputMode.all.map OutputMode.name) },
    { name := "format"
      letter := some 'f'
      kind := .choice (LinkedFormat.all.map LinkedFormat.name) },
    pathOption "output" 'o',
    pathOption "config" 'c',
    { name := "compact", kind := .flag }]

def checkPatternsOptions : List OptionSpec := [pathOption "patterns" 'p', pathOption "config" 'c']

def matchOptions : List OptionSpec :=
  [pathOption "answers" 'a', pathOption "templates" 't', pathOption "patterns" 'p',
    pathOption "config" 'c']

def importOptions : List OptionSpec :=
  [pathOption "config" 'c',
    { name := "index", letter := some 'i', kind := .text },
    pathOption "file" 'f',
    { name := "id", kind := .text },
    { name := "overwrite", kind := .flag },
    { name := "rebuild", kind := .flag }]

def validateOptions : List OptionSpec := [pathOption "config" 'c']

def generateOptions : List OptionSpec :=
  [pathOption "output" 'o',
    { name := "format", letter := some 'f', kind := .choice ["yaml", "json"] }]

/-! ## Reading arguments -/

/-- The value of an option that must be given. -/
def required (given : Given) (name : String) : Except Stop String :=
  match given.lookup name with
  | some value => .ok value
  | none => .error .misuse

def isGiven (given : Given) (name : String) : Bool := (given.lookup name).isSome

/-- Reads all arguments as options. -/
def allOptions (specs : List OptionSpec) (arguments : List String) : Except Stop Given := do
  match ← readOptions (specs ++ commonOptions) (arguments.length + 1) [] arguments with
  | (given, []) => return given
  | _ => throw .misuse

def readBuild (arguments : List String) : Except Stop Command := do
  let given ← allOptions buildOptions arguments
  if isGiven given "answers" && isGiven given "document-id" then throw .misuse
  return .build {
    answers := given.lookup "answers"
    documentId := given.lookup "document-id"
    templates := given.lookup "templates"
    patterns := given.lookup "patterns"
    mode := (given.lookup "mode").bind OutputMode.ofName?
    format := (given.lookup "format").bind LinkedFormat.ofName?
    output := given.lookup "output"
    configuration := given.lookup "config"
    compact := isGiven given "compact" }

def readCheckPatterns (arguments : List String) : Except Stop Command := do
  let given ← allOptions checkPatternsOptions arguments
  return .checkPatterns (← required given "patterns") (given.lookup "config")

def readMatch (arguments : List String) : Except Stop Command := do
  let given ← allOptions matchOptions arguments
  return .matchAnswers (← required given "answers") (given.lookup "templates")
    (given.lookup "patterns") (given.lookup "config")

def readImport (arguments : List String) : Except Stop Command := do
  let given ← allOptions importOptions arguments
  if !isGiven given "file" && !isGiven given "rebuild" then throw .misuse
  return .importDocument {
    configuration := ← required given "config"
    index := ← required given "index"
    file := given.lookup "file"
    id := given.lookup "id"
    overwrite := isGiven given "overwrite"
    rebuild := isGiven given "rebuild" }

def readValidate (arguments : List String) : Except Stop Command := do
  let given ← allOptions validateOptions arguments
  return .validate (← required given "config")

def readGenerate (arguments : List String) : Except Stop Command := do
  let given ← allOptions generateOptions arguments
  let format := (given.lookup "format").map fun name =>
    if name = "json" then ConfigurationFormat.json else .yaml
  return .generate (← required given "output") format

/-- The readers of the commands by name. -/
def readers : List (String × (List String → Except Stop Command)) :=
  [("build", readBuild), ("check-patterns", readCheckPatterns), ("match", readMatch),
    ("import", readImport), ("validate", readValidate), ("generate-config", readGenerate)]

/-- Help is given on the program or on one command. -/
def readHelp (names : List String) : Stop :=
  match names with
  | [] => .help
  | [name] => if name = "help" || (readers.lookup name).isSome then .help else .misuse
  | _ => .misuse

/-- The command that arguments stand for. -/
def ofArguments (arguments : List String) : Except Stop Command := do
  match ← readOptions (versionOption :: commonOptions) (arguments.length + 1) [] arguments with
  | (_, []) => throw .misuse
  | (_, name :: rest) =>
    if name = "help" then throw (readHelp rest)
    match readers.lookup name with
    | some read => read rest
    | none => throw .misuse

end Command

end AnswerGraph
