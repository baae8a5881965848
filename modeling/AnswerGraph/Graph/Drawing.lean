import AnswerGraph.Graph.Basic
import AnswerGraph.Text.Search

/-!
Drawing a graph in the DOT language. A triple whose predicate speaks of a type colours its subject,
one whose predicate speaks of a label gives its subject the name of its object, and all others are
drawn as edges between their subject and object.
-/

namespace AnswerGraph

namespace Drawing

structure Node where
  name : String
  typed : Bool := false
  deriving DecidableEq, Repr

namespace Node

def mentions (word : String) (text : String) : Bool :=
  Text.contains word.toList text.toList

def color (node : Node) : String :=
  if !mentions "http:" node.name && !mentions "https:" node.name then "#66789f"
  else if node.typed then "#dce4f5"
  else "#dddddd"

/-- Resources are drawn without a label. -/
def label (node : Node) : String :=
  if mentions "http" node.name then "" else node.name

end Node

/-- An edge between two nodes, by their positions. -/
structure Edge where
  predicate : String
  source : Nat
  target : Nat
  deriving DecidableEq, Repr

structure State where
  nodes : List Node := []
  edges : List Edge := []
  deriving DecidableEq, Repr

/-- The position of a name among the nodes; a new name gets a node at the end. -/
def position (nodes : List Node) (name : String) : Nat × List Node :=
  match nodes.findIdx? (·.name == name) with
  | some found => (found, nodes)
  | none => (nodes.length, nodes ++ [{ name }])

/-- Adds the edge of a triple; statements that are no triples are not drawn. -/
def addStatement (state : State) (statement : Statement) : State :=
  match statement.triple? with
  | none => state
  | some (subject, predicate, object) =>
    let (source, nodes) := position state.nodes subject.text
    let (target, nodes) := position nodes object.text
    { nodes, edges := state.edges ++ [⟨predicate.text, source, target⟩] }

def ofStatements (statements : List Statement) : State :=
  statements.foldl addStatement {}

def isTyping (edge : Edge) : Bool := Node.mentions "type" edge.predicate

def isLabelling (edge : Edge) : Bool :=
  !isTyping edge && Node.mentions "label" edge.predicate

def isDrawn (edge : Edge) : Bool := !isTyping edge && !isLabelling edge

/-- Changes the nodes as an edge says that is not drawn. -/
def apply (nodes : List Node) (edge : Edge) : List Node :=
  if isTyping edge then nodes.modify edge.source fun node => { node with typed := true }
  else if isLabelling edge then
    match nodes[edge.target]? with
    | some named => nodes.modify edge.source fun node => { node with name := named.name }
    | none => nodes
  else nodes

/-- Characters that end or escape a quoted text are escaped. -/
def escapeChar (c : Char) : List Char :=
  if c = '\\' ∨ c = '"' then ['\\', c] else [c]

def quote (text : String) : List Char :=
  '"' :: text.toList.flatMap escapeChar ++ ['"']

/-- The positions of all nodes at an end of some edge, in ascending order. -/
def usedNodes (count : Nat) (edges : List Edge) : List Nat :=
  (List.range count).filter fun index =>
    edges.any fun edge => edge.source == index || edge.target == index

/-- The number of a node among the used ones. -/
def number (used : List Nat) (index : Nat) : Nat :=
  (used.idxOf? index).getD index

/-- Nodes without a label are dots. -/
def shape (node : Node) : String := if node.label.isEmpty then "dot" else "triangle"

def nodeLine (number : Nat) (node : Node) : List Char :=
  s!"  n{number} [label=".toList ++ quote node.label ++
    s!", color=\"{node.color}\", shape={shape node}];\n".toList

def edgeLine (used : List Nat) (edge : Edge) : List Char :=
  s!"  n{number used edge.source} -> n{number used edge.target} [label=".toList ++
    quote (String.ofList (Text.afterLast (· == '/') edge.predicate.toList)) ++
    ", color=gray];\n".toList

def write (statements : List Statement) : List Char :=
  let state := ofStatements statements
  let nodes := state.edges.foldl apply state.nodes
  let drawn := state.edges.filter isDrawn
  let used := usedNodes nodes.length drawn
  let chosen := used.filterMap fun index => nodes[index]?
  "digraph \x7b\n".toList ++
    (chosen.zipIdx.flatMap fun (node, rank) => nodeLine rank node) ++
    drawn.flatMap (edgeLine used) ++ ['}']

end Drawing

end AnswerGraph
