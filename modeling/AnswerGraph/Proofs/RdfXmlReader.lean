import AnswerGraph.Proofs.XmlReader
import AnswerGraph.Term

/-!
Reading RDF/XML: the subjects that are described in a document, each with its properties. A subject
has the IRI that its description gives; a property is named by an element, and its object is the IRI
that the element gives or else the text in it. IRIs are in full, and taken as they stand.
-/

namespace AnswerGraph

namespace RdfXml

/-- What a name stands for. -/
def iriOf (name : Xml.Name) : String :=
  String.ofList (name.space ++ name.part)

/-- A term of RDF itself. -/
def rdfIri (part : String) : String :=
  Vocabulary.rdf ++ part

/-- The terms that say how a graph is written, also those of the past. No property is one of
them. -/
def syntaxTerms : List String :=
  ["RDF", "Description", "ID", "about", "parseType", "resource", "nodeID", "datatype", "aboutEach",
    "aboutEachPrefix", "bagID"].map rdfIri

/-- An item of a list, which is read as the property of its number. -/
def listItem : String := rdfIri "li"

def numbered (number : Nat) : String := rdfIri s!"_{number}"

/-- A described subject, and its properties with their objects. -/
abbrev Described := String × List (String × Term)

def object? : List (Xml.Name × List Char) → List Xml.Node → Option Term
  | [], [] => some (.literal "")
  | [], [.text content] => some (.literal (String.ofList content))
  | [(name, value)], [] =>
    if iriOf name = rdfIri "resource" then some (.iri (String.ofList value)) else none
  | _, _ => none

/-- The properties in a description; the items of a list are numbered from `number` on. -/
def properties? (number : Nat) : List Xml.Node → Option (List (String × Term))
  | [] => some []
  | .text _ :: _ => none
  | .element name attributes children :: rest =>
    if iriOf name ∈ syntaxTerms then none
    else
      (object? attributes children).bind fun object =>
        if iriOf name = listItem then
          (properties? (number + 1) rest).map ((numbered number, object) :: ·)
        else (properties? number rest).map ((iriOf name, object) :: ·)

/-- The nodes that are more than space. -/
def solid (children : List Xml.Node) : List Xml.Node :=
  children.filter (!·.isBlank)

def described? : Xml.Node → Option Described
  | .element name [(given, subject)] children =>
    if iriOf name = rdfIri "Description" ∧ iriOf given = rdfIri "about" then
      (properties? 1 (solid children)).map (String.ofList subject, ·)
    else none
  | _ => none

def ofNode? : Xml.Node → Option (List Described)
  | .element name [] children =>
    if iriOf name = rdfIri "RDF" then (solid children).mapM described? else none
  | _ => none

/-- What is described in a text. -/
def read? (text : List Char) : Option (List Described) :=
  (Xml.read? text).bind ofNode?

end RdfXml

end AnswerGraph
