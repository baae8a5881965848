import AnswerGraph.Rdf.Check
import AnswerGraph.Text.Alphabet

/-!
RDF/XML: one description per subject, with an element per triple. An element is named by the last
part of its predicate, which has to be a name in XML.
-/

namespace AnswerGraph

namespace RdfXml

/-- A character of an attribute in double quotes. -/
def escapeAttributeChar (c : Char) : List Char :=
  if c = '&' then "&amp;".toList
  else if c = '<' then "&lt;".toList
  else if c = '>' then "&gt;".toList
  else if c = '"' then "&quot;".toList
  else [c]

def escapeTextChar (c : Char) : List Char :=
  if c = '&' then "&amp;".toList
  else if c = '<' then "&lt;".toList
  else if c = '>' then "&gt;".toList
  else [c]

def attributeText (text : List Char) : List Char := text.flatMap escapeAttributeChar

def elementText (text : List Char) : List Char := text.flatMap escapeTextChar

def isNameStart (c : Char) : Bool := Text.isAlphabetic c || c == '_'

def isNameChar (c : Char) : Bool :=
  Text.isAlphanumeric c || c == '_' || c == '-' || c == '.'

def isCut (c : Char) : Bool := c == '#' || c == '/'

/-- The parts of an IRI before and after its last `#` or `/`, if the latter is a name. -/
def splitName? (iri : List Char) : Option (List Char × List Char) :=
  if !iri.any isCut then none
  else
    let name := Text.afterLast isCut iri
    match name with
    | [] => none
    | first :: rest =>
      if isNameStart first && rest.all isNameChar then
        some (iri.take (iri.length - name.length), name)
      else none

/-- The element of a triple; none if its predicate has no name. -/
def element? (triple : Triple) : Option (List Char) := do
  let (space, name) ← splitName? triple.predicate.text.toList
  let opening := "    <".toList ++ name ++ " xmlns=\"".toList ++ attributeText space
  some <|
    match triple.object with
    | .iri value =>
      opening ++ "\" rdf:resource=\"".toList ++ attributeText value.toList ++ "\"/>\n".toList
    | .literal value =>
      opening ++ "\">".toList ++ elementText value.toList ++ "</".toList ++ name ++ ">\n".toList

/-- The elements of some triples, or the first triple that has none. -/
def elements : List Triple → Except Triple (List Char)
  | [] => .ok []
  | triple :: rest =>
    match element? triple with
    | none => .error triple
    | some text => do .ok (text ++ (← elements rest))

def description (subject : Term) (triples : List Triple) : Except Triple (List Char) := do
  .ok ("  <rdf:Description rdf:about=\"".toList ++ attributeText subject.text.toList ++
    "\">\n".toList ++ (← elements triples) ++ "  </rdf:Description>\n".toList)

def descriptions : List (Term × List Triple) → Except Triple (List Char)
  | [] => .ok []
  | (subject, triples) :: rest => do
    let first ← description subject triples
    .ok (first ++ (← descriptions rest))

/-- The text of some triples, or the first triple that cannot be written. -/
def write (triples : List Triple) : Except Triple (List Char) := do
  let body ← descriptions (Rdf.bySubject triples)
  .ok ("<?xml version=\"1.0\" encoding=\"UTF-8\"?>\n<rdf:RDF xmlns:rdf=\"".toList ++
    Vocabulary.rdf.toList ++ "\">\n".toList ++ body ++ "</rdf:RDF>\n".toList)

end RdfXml

end AnswerGraph
