import AnswerGraph.Document
import AnswerGraph.Yaml.Ambiguous
import AnswerGraph.Yaml.Node

/-!
Reading YAML text as a document. Every scalar reads as text, whatever else it may be; null and flags
are read from plain scalars only. A tag of the text's own names a choice. Numbers are not told from
other texts.
-/

namespace AnswerGraph

namespace Yaml

def nullTag : String := "tag:yaml.org,2002:null"

def flagTag : String := "tag:yaml.org,2002:bool"

/-- The name in a tag of the text's own. -/
def ownTag? (tag : Option String) : Option String :=
  match tag.map String.toList with
  | some ('!' :: name) => some (String.ofList name)
  | _ => none

/-- The readings of a scalar. A choice is named by the text, or by a tag before a scalar that says
nothing else. -/
def readings (tag : Option String) (text : String) (style : ScalarStyle) : Scalar :=
  let plain := style == .plain
  { blank := plain && text.isEmpty
    null := plain &&
      match tag with
      | none => text.isEmpty || isNullWord text
      | some tag => tag == nullTag && isNullWord text
    flag := if plain || (style == .literal && tag == some flagTag) then flagOf? text else none
    text := some text
    choice :=
      match ownTag? tag with
      | none => some text
      | some name => if plain && (text.isEmpty || isNullWord text) then some name else none }

namespace Node

mutual

/-- The document of a node in which an alias stands for what `target` says. -/
def toDocument (target : Nat → Document) : Node → Document
  | .alias anchor => target anchor
  | .scalar properties text style => .scalar (readings properties.tag text style)
  | .list _ items => .list false (itemsToDocument target items)
  | .record _ members => .record none (membersToDocument target members)

def itemsToDocument (target : Nat → Document) : List Node → List Document
  | [] => []
  | item :: items => toDocument target item :: itemsToDocument target items

def membersToDocument (target : Nat → Document) :
    List (Node × Node) → List (Option String × Document)
  | [] => []
  | (key, value) :: members =>
    ((toDocument target key).text?, toDocument target value) :: membersToDocument target members

end

/-- A node by the number of its anchor. -/
def byAnchor (properties : Properties) (node : Node) : List (Nat × Node) :=
  match properties.anchor with
  | some anchor => [(anchor, node)]
  | none => []

mutual

/-- The nodes that have anchors, in the order in which they start. -/
def anchored : Node → List (Nat × Node)
  | .alias _ => []
  | .scalar properties text style => byAnchor properties (.scalar properties text style)
  | .list properties items => byAnchor properties (.list properties items) ++ itemsAnchored items
  | .record properties members =>
    byAnchor properties (.record properties members) ++ membersAnchored members

def itemsAnchored : List Node → List (Nat × Node)
  | [] => []
  | item :: items => anchored item ++ itemsAnchored items

def membersAnchored : List (Node × Node) → List (Nat × Node)
  | [] => []
  | (key, value) :: members => anchored key ++ anchored value ++ membersAnchored members

end

/-- How many aliases may lead from one to the next. -/
def maxAliases : Nat := 8

/-- What aliases stand for, up to a number of aliases in one another. Of two nodes with one anchor
the last counts, even for an alias before it. -/
def targets (nodes : List (Nat × Node)) : Nat → List (Nat × Document)
  | 0 => []
  | count + 1 =>
    let inner := targets nodes count
    nodes.map fun (anchor, node) =>
      (anchor, node.toDocument fun number => (inner.lookup number).getD (.scalar {}))

end Node

end Yaml

namespace Document

/-- The document that a YAML text holds. -/
def ofYaml? (text : String) : Option Document := do
  let node ← Yaml.Node.ofTokens? (← Yaml.Token.ofText? text.toList)
  let targets := Yaml.Node.targets node.anchored.reverse Yaml.Node.maxAliases
  some (node.toDocument fun number => (targets.lookup number).getD (.scalar {}))

end Document

end AnswerGraph
