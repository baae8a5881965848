import AnswerGraph.Json.Basic
import AnswerGraph.Rdf.Check
import AnswerGraph.Text.Search

/-!
Reading triples from a JSON-LD document of nodes. The context says what prefixes stand for; keys,
identifiers and types are expanded by it.
-/

namespace AnswerGraph

namespace JsonLd

/-! ## Expansion -/

/-- The delimiters at the end of what a prefix may stand for. -/
def genDelims : List Char := [':', '/', '?', '#', '[', ']', '@']

def endsInDelim (root : String) : Bool :=
  root.toList.getLast?.any genDelims.contains

/-- Whether a text with a colon is a blank node or an absolute IRI by its looks. -/
def isLiteralIri (front rest : List Char) : Bool :=
  front == ['_'] || ['/', '/'].isPrefixOf rest

/-- What a text stands for as an identifier: what is before its first colon may be a prefix. -/
def expand (context : List (String × String)) (text : String) : String :=
  match Text.cutAtChar? ':' text.toList with
  | none => text
  | some (front, rest) =>
    if isLiteralIri front rest then text
    else
      match context.lookup (String.ofList front) with
      | some root => if endsInDelim root then root ++ String.ofList rest else text
      | none => text

/-! ## Nodes -/

/-- The values of a member: the items of an array, or the value itself. -/
def valuesOf : Json → List Json
  | .array values => values
  | value => [value]

/-- The object that a value under a property stands for: a text is a literal, and a reference has
an identifier. -/
def objectOf? (context : List (String × String)) : Json → Option Term
  | .string value => some (.literal value)
  | .object [(key, .string value)] =>
    if key = "@id" then some (.iri (expand context value)) else none
  | _ => none

/-- The triple of one value under a key. -/
def tripleOf? (context : List (String × String)) (subject : Term) (key : String) (value : Json) :
    Option Triple :=
  if key = "@type" then
    match value with
    | .string name => some ⟨subject, .iri Vocabulary.rdfType, .iri (expand context name)⟩
    | _ => none
  else (objectOf? context value).map (⟨subject, .iri (expand context key), ·⟩)

/-- The triples of a member of a node. -/
def memberTriples? (context : List (String × String)) (subject : Term) (member : String × Json) :
    Option (List Triple) :=
  if member.1 = "@id" then some []
  else (valuesOf member.2).mapM (tripleOf? context subject member.1)

def nodeTriples? (context : List (String × String)) : Json → Option (List Triple)
  | .object members =>
    match members.lookup "@id" with
    | some (.string subject) =>
      (members.mapM (memberTriples? context (.iri (expand context subject)))).map List.flatten
    | _ => none
  | _ => none

/-! ## Documents -/

def context? : Json → Option (List (String × String))
  | .object members => members.mapM fun (key, root) =>
    match root with
    | .string root => some (key, root)
    | _ => none
  | _ => none

/-- The triples of a document. -/
def triples? (document : Json) : Option (List Triple) := do
  let context ← (document.member? "@context").bind context?
  match document.member? "@graph" with
  | some (.array nodes) => (nodes.mapM (nodeTriples? context)).map List.flatten
  | _ => none

end JsonLd

end AnswerGraph
