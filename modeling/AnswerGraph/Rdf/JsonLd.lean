import AnswerGraph.Json.Basic
import AnswerGraph.Rdf.Check
import AnswerGraph.Text.Search

/-!
JSON-LD: a context of prefixes, and one node per subject that maps each predicate to its objects.
IRIs in keys and types are shortened by the prefix with the longest root, counted in bytes; only
roots that end in a delimiter can shorten, because others are no prefixes in JSON-LD.
-/

namespace AnswerGraph

/-- The prefixes that a document declares, in the order of their declaration. -/
abbrev Prefixes := List (String × String)

namespace Prefixes

def standard : Prefixes := [("rdf", Vocabulary.rdf), ("rdfs", Vocabulary.rdfs)]

/-- A declaration takes the place of an older one of the same prefix. -/
def declare (prefixes : Prefixes) (namePrefix root : String) : Prefixes :=
  prefixes.filter (·.1 != namePrefix) ++ [(namePrefix, root)]

def ofNamespaces (namespaces : Namespaces) : Prefixes :=
  namespaces.entries.foldl (fun prefixes (namePrefix, root) => prefixes.declare namePrefix root)
    standard

def isDelimiter (c : Char) : Bool := ":/?#[]@".toList.contains c

/-- What follows a root in a longer IRI, if the root can shorten it. -/
def rest? (root iri : String) : Option (List Char) :=
  if root.toList.getLast?.any isDelimiter then
    match Text.dropPrefix? root.toList iri.toList with
    | some [] => none
    | found => found
  else none

/-- The declaration with the longest root that shortens an IRI; of equally long roots the last. -/
def best? (iri : String) : Prefixes → Option (String × String)
  | [] => none
  | (namePrefix, root) :: others =>
    match best? iri others, rest? root iri with
    | found, none => found
    | none, some _ => some (namePrefix, root)
    | some found, some _ =>
      if found.2.utf8ByteSize < root.utf8ByteSize then some (namePrefix, root) else some found

def compact (prefixes : Prefixes) (iri : String) : String :=
  match prefixes.best? iri with
  | some (namePrefix, root) =>
    match rest? root iri with
    | some rest => namePrefix ++ ":" ++ String.ofList rest
    | none => iri
  | none => iri

end Prefixes

namespace JsonLd

/-- The key and the value that a triple adds to the node of its subject. -/
def property (prefixes : Prefixes) (triple : Triple) : String × Json :=
  match triple.object with
  | .iri value =>
    if triple.predicate.text = Vocabulary.rdfType then ("@type", .string (prefixes.compact value))
    else (prefixes.compact triple.predicate.text, .object [("@id", .string value)])
  | .literal value => (prefixes.compact triple.predicate.text, .string value)

/-- Adds a value under a key: alone if it is the first, in an array if there are several. -/
def addProperty (node : List (String × Json)) (key : String) (value : Json) :
    List (String × Json) :=
  match node.lookup key with
  | some (.array values) => Keyed.insert key (.array (values ++ [value])) node
  | some first => Keyed.insert key (.array [first, value]) node
  | none => Keyed.insert key value node

def node (prefixes : Prefixes) (subject : Term) (triples : List Triple) : Json :=
  .object ((triples.map (property prefixes)).foldl
    (fun members (key, value) => addProperty members key value) [("@id", .string subject.text)])

def document (prefixes : Prefixes) (triples : List Triple) : Json :=
  .object [
    ("@context",
      Json.ofMembers (prefixes.map fun (namePrefix, root) => (namePrefix, .string root))),
    ("@graph",
      .array ((Rdf.bySubject triples).map fun (subject, own) => node prefixes subject own))]

end JsonLd

end AnswerGraph
