import AnswerGraph.Configuration.Check
import AnswerGraph.Configuration.Document
import AnswerGraph.Files.Tree
import AnswerGraph.Json.Printer
import AnswerGraph.Json.Reader
import AnswerGraph.Yaml.Printer
import AnswerGraph.Yaml.Reader

/-!
Configurations in files. The extension of a file decides its format, for reading and for writing. A
configuration that is not usable can be read, but it is not written.
-/

namespace AnswerGraph

inductive ConfigurationFormat where
  | json
  | yaml
  deriving DecidableEq, Repr

namespace ConfigurationFormat

/-- JSON for the extension `json`, and YAML for all others. -/
def ofPath (path : String) : ConfigurationFormat :=
  if Path.extension? path = some "json" then json else yaml

def name : ConfigurationFormat → String
  | json => "JSON"
  | yaml => "YAML"

end ConfigurationFormat

/-- Why a configuration cannot be read from a file or written to one. -/
inductive ConfigurationFileError where
  | unreadable (path : String)
  | malformed (format : ConfigurationFormat) (path : String)
  | unusable (cause : ConfigurationError)
  /-- The folder of a new file cannot be made. -/
  | noFolder (path : String)
  | unwritable (path : String)
  deriving DecidableEq, Repr

def ConfigurationFileError.message : ConfigurationFileError → String
  | unreadable path => s!"Failed to read config file: {path}"
  | malformed format path => s!"Failed to parse {format.name} config: {path}"
  | unusable cause => cause.message
  | noFolder path => s!"Failed to create config directory: {path}"
  | unwritable path => s!"Failed to write config file: {path}"

namespace Configuration

/-- The configuration of a text. -/
def ofText? (format : ConfigurationFormat) (text : String) : Option Configuration := do
  let document ←
    match format with
    | .json => Document.ofJson? text
    | .yaml => Document.ofYaml? text
  ofDocument? document

def text (format : ConfigurationFormat) (configuration : Configuration) : String :=
  match format with
  | .json => configuration.toJson.render true
  | .yaml => Yaml.render configuration.toJson

/-- Reads the configuration in a file. -/
def load (files : FileTree) (path : String) : Except ConfigurationFileError Configuration :=
  match files.readText path with
  | .error _ => .error (.unreadable path)
  | .ok content =>
    let format := ConfigurationFormat.ofPath path
    match ofText? format content with
    | some configuration => .ok configuration
    | none => .error (.malformed format path)

/-- Makes the folder of a file, unless that is the working folder. -/
def makeFolderOf (files : FileTree) (path : String) :
    FileTree × Except ConfigurationFileError Unit :=
  match (Path.parent? path).filter (!·.isEmpty) with
  | none => (files, .ok ())
  | some folder =>
    let (files, result) := files.makeFolders folder
    (files, result.mapError fun _ => .noFolder folder)

/-- Writes a usable configuration into a file. -/
def save (files : FileTree) (path : String) (configuration : Configuration) :
    FileTree × Except ConfigurationFileError Unit :=
  match configuration.check with
  | .error cause => (files, .error (.unusable cause))
  | .ok () =>
    match makeFolderOf files path with
    | (files, .error error) => (files, .error error)
    | (files, .ok ()) =>
      match files.writeText path (configuration.text (.ofPath path)) with
      | .ok files => (files, .ok ())
      | .error _ => (files, .error (.unwritable path))

end Configuration

end AnswerGraph
