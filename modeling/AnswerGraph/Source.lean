import AnswerGraph.Answer.Document
import AnswerGraph.Files.Tree
import AnswerGraph.Json.Reader
import AnswerGraph.Pattern.PatternSet
import AnswerGraph.Template.Document

/-!
Where the inputs of a build come from: a file, a text at hand, or a JSON value that was read before.
A pattern text cannot be a JSON value.
-/

namespace AnswerGraph

inductive Source where
  | file (path : String)
  | text (content : String)
  | json (value : Json)
  deriving Repr

/-- Why an answer source or a list of templates cannot be loaded. -/
inductive InputError where
  | unreadable (what path : String)
  | malformed (what : String)
  | unsupported (what given : String)
  deriving DecidableEq, Repr

def InputError.message : InputError → String
  | unreadable what path => s!"failed to read {what} from {path}"
  | malformed what => s!"malformed {what}"
  | unsupported what given => s!"{what} cannot be given as {given}"

/-- Why a graph cannot be built or written. -/
inductive GraphError where
  | pattern (cause : PatternError)
  | input (cause : InputError)
  /-- A statement that has no place in RDF, quoted with the reason. -/
  | notRdf (statement reason : String)
  deriving DecidableEq, Repr

def GraphError.message : GraphError → String
  | pattern cause => cause.message
  | input cause => cause.message
  | notRdf statement reason => s!"statement [{statement}] cannot be expressed as RDF: {reason}"

namespace Source

/-- The document of a source. Of a text, everything that is read must be sound; `whole` asks for
this of the parts that nobody reads as well. -/
def document (what : String) (whole : Bool) (files : FileTree) (source : Source) :
    Except InputError Document :=
  let ofText (text : String) : Except InputError Document :=
    match Document.ofJson? text with
    | none => .error (.malformed what)
    | some document =>
      if whole && (document.toJson? Document.maxDepth).isNone then .error (.malformed what)
      else .ok document
  match source with
  | file path =>
    match files.readText path with
    | .ok content => ofText content
    | .error _ => .error (.unreadable what path)
  | text content => ofText content
  | json value => .ok value.toDocument

def loadAnswers (files : FileTree) (source : Source) : Except InputError AnswerSource := do
  let document ← source.document "answer source" false files
  match AnswerSource.ofDocument? document with
  | some answers => .ok answers
  | none => .error (.malformed "answer source")

def loadTemplates (files : FileTree) (source : Source) :
    Except InputError (List QuestionTemplate) := do
  let document ← source.document "question templates" true files
  match QuestionTemplate.listOfDocument? document with
  | some templates => .ok templates
  | none => .error (.malformed "question templates")

/-- Compiles a pattern text whose variables are identified under `base`. -/
def loadPatterns (files : FileTree) (base : String) (source : Source) :
    Except GraphError PatternSet :=
  match source with
  | file path =>
    match files.readText path with
    | .ok content => (PatternSet.ofText base content).mapError .pattern
    | .error _ => .error (.pattern (.unreadable path))
  | text content => (PatternSet.ofText base content).mapError .pattern
  | json _ => .error (.input (.unsupported "pattern file" "a JSON value"))

end Source

end AnswerGraph
