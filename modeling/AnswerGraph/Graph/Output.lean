import AnswerGraph.Graph.Drawing
import AnswerGraph.Json.Printer
import AnswerGraph.Rdf.JsonLd
import AnswerGraph.Rdf.Turtle
import AnswerGraph.Rdf.Xml
import AnswerGraph.Source
import AnswerGraph.Text.Lowercase

/-!
The texts of a graph: linked data in four formats, plain rows, or a drawing. All of them show each
statement once, in the order of first occurrence.
-/

namespace AnswerGraph

inductive OutputMode where
  | linked
  | plain
  | dot
  deriving DecidableEq, Repr

namespace OutputMode

def name : OutputMode → String
  | linked => "linked"
  | plain => "plain"
  | dot => "dot"

def title : OutputMode → String
  | linked => "Linked"
  | plain => "Plain"
  | dot => "Dot"

def all : List OutputMode := [linked, plain, dot]

/-- The mode of a name as settings and arguments spell it. -/
def ofName? (name : String) : Option OutputMode :=
  all.find? (·.name == name)

end OutputMode

inductive LinkedFormat where
  | jsonLd
  | turtle
  | nTriples
  | rdfXml
  deriving DecidableEq, Repr

namespace LinkedFormat

def name : LinkedFormat → String
  | jsonLd => "json-ld"
  | turtle => "turtle"
  | nTriples => "n-triples"
  | rdfXml => "rdf-xml"

def all : List LinkedFormat := [jsonLd, turtle, nTriples, rdfXml]

/-- The format of a name as settings and arguments spell it. -/
def ofName? (name : String) : Option LinkedFormat :=
  all.find? (·.name == name)

/-- The format of a name, file extension or media type, in any case and with blanks around it. An
unknown text is returned in the form in which it was compared. -/
def ofText (text : String) : Except String LinkedFormat :=
  let key := String.ofList (Text.lower (Text.trim text.toList))
  if ["json-ld", "jsonld", "application/ld+json"].contains key then .ok jsonLd
  else if ["turtle", "ttl", "text/turtle"].contains key then .ok turtle
  else if ["n-triples", "ntriples", "nt", "application/n-triples"].contains key then .ok nTriples
  else if ["rdf-xml", "rdfxml", "xml", "application/rdf+xml"].contains key then .ok rdfXml
  else .error key

def unsupportedMessage (key : String) : String :=
  s!"Unsupported linked-data format: {key}. Supported: json-ld, turtle, n-triples, rdf-xml"

end LinkedFormat

structure OutputSettings where
  mode : OutputMode := .linked
  format : LinkedFormat := .jsonLd
  /-- JSON is written on several lines. -/
  pretty : Bool := true
  deriving DecidableEq, Repr

namespace Rdf

/-- The text of statements in a format. -/
def write (namespaces : Namespaces) (format : LinkedFormat) (pretty : Bool)
    (statements : List Statement) : Except GraphError String :=
  match triples statements with
  | .error (statement, problem) => .error (.notRdf statement.display problem.message)
  | .ok triples =>
    match format with
    | .jsonLd => .ok ((JsonLd.document (Prefixes.ofNamespaces namespaces) triples).render pretty)
    | .turtle => .ok (String.ofList (Turtle.write triples))
    | .nTriples => .ok (String.ofList (NTriples.write triples))
    | .rdfXml =>
      match RdfXml.write triples with
      | .ok text => .ok (String.ofList text)
      | .error triple =>
        .error (.notRdf
          s!"{triple.subject.text} {triple.predicate.text} {triple.object.text}"
          "predicate has no XML local name")

end Rdf

/-- The distinct rows of statements. -/
def plainRows (statements : List Statement) : List (List String) :=
  firsts (statements.map Statement.row)

def writePlain (pretty : Bool) (statements : List Statement) : String :=
  (Json.array ((plainRows statements).map Json.strings)).render pretty

namespace Graph

def drawing (graph : Graph) : String :=
  String.ofList (Drawing.write graph.distinct)

def render (graph : Graph) (settings : OutputSettings) : Except GraphError String :=
  match settings.mode with
  | .linked => Rdf.write graph.namespaces settings.format settings.pretty graph.statements
  | .plain => .ok (writePlain settings.pretty graph.statements)
  | .dot => .ok graph.drawing

end Graph

end AnswerGraph
