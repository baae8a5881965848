import AnswerGraph.Graph.Drawing
import AnswerGraph.Proofs.DrawingReader
import AnswerGraph.Proofs.IdentifierBase

/-!
The text of a drawing is read back. A quoted text ends where it was meant to end, whatever
characters it has; so each line has the tokens of one item, and the whole text has the nodes in
order of their numbers and then the edges.
-/

namespace AnswerGraph

namespace Drawing

open Dot

/-! ## Quoted texts -/

theorem scan_escapeChar (text : List Char) (c : Char) :
    scan (.quoted text) (escapeChar c) = some ([], .quoted (text ++ [c])) := by
  by_cases special : c = '\\' ∨ c = '"'
  · rcases special with rfl | rfl <;> rfl
  · obtain ⟨noBackslash, noQuote⟩ := not_or.mp special
    rw [escapeChar, if_neg special]
    simp [scan, step, noBackslash, noQuote]

theorem scan_escaped (text more : List Char) :
    scan (.quoted text) (more.flatMap escapeChar) = some ([], .quoted (text ++ more)) := by
  induction more generalizing text with
  | nil => rw [List.flatMap_nil, List.append_nil, scan]
  | cons c rest ih =>
    have others := ih (text ++ [c])
    rw [List.append_assoc] at others
    exact scan_append (scan_escapeChar text c) others

/-- A quoted text is one token: no character of it is taken for its end. -/
theorem scan_quote (text : String) :
    scan .between (quote text) = some ([.quoted text.toList], .between) := by
  have inside : scan (.quoted []) (text.toList.flatMap escapeChar) =
      some ([], .quoted text.toList) := scan_escaped [] text.toList
  have closing : scan (.quoted text.toList) ['"'] = some ([.quoted text.toList], .between) := rfl
  have opening : step .between '"' = some ([], .quoted []) := rfl
  exact scan_cons opening (scan_append inside closing)

/-! ## Lines -/

/-- The identifier of a node. -/
def nodeId (number : Nat) : String := "n" ++ toString number

theorem toList_nodeId (number : Nat) : (nodeId number).toList = 'n' :: numeral number := by
  rw [nodeId, String.toList_append, numeral]
  rfl

theorem nodeId_injective {first second : Nat} (same : nodeId first = nodeId second) :
    first = second :=
  append_number_injective same

theorem isWordChar_of_isDigit {c : Char} (digit : c.isDigit = true) : isWordChar c = true := by
  simp [isWordChar, Char.isAlphanum, digit]

/-- An identifier is scanned as a word, behind which some text starts with another token. -/
theorem scan_nodeId (number : Nat) {text : List Char} {tokens : List Token} {mode : Mode}
    (behind : ∀ letters, scan (.word letters) text = some (.word letters :: tokens, mode)) :
    scan .between ((nodeId number).toList ++ text) =
      some (.word (nodeId number).toList :: tokens, mode) := by
  have letter : step .between 'n' = some ([], .word ['n']) := rfl
  have digits : scan (.word ['n']) (numeral number) = some ([], .word (nodeId number).toList) := by
    rw [toList_nodeId]
    exact scan_word fun c member => isWordChar_of_isDigit (isDigit_of_mem_numeral member)
  have whole := scan_cons letter (scan_append digits (behind (nodeId number).toList))
  rw [toList_nodeId] at whole ⊢
  exact whole

/-- What a line says about a node. -/
def nodeItem (number : Nat) (node : Node) : Item :=
  .node (nodeId number) [("label", node.label), ("color", node.color), ("shape", shape node)]

def nodeTokens (number : Nat) (node : Node) : List Token :=
  [.word (nodeId number).toList, .mark '[',
    .word "label".toList, .mark '=', .quoted node.label.toList, .mark ',',
    .word "color".toList, .mark '=', .quoted node.color.toList, .mark ',',
    .word "shape".toList, .mark '=', .word (shape node).toList, .mark ']']

theorem scan_color (node : Node) :
    scan .between s!", color=\"{node.color}\", shape=".toList =
      some ([.mark ',', .word "color".toList, .mark '=', .quoted node.color.toList, .mark ',',
        .word "shape".toList, .mark '='], .between) := by
  unfold Node.color
  split
  · rfl
  split
  · rfl
  · rfl

theorem scan_shape (node : Node) :
    scan .between s!"{shape node}];\n".toList =
      some ([.word (shape node).toList, .mark ']', .mark ';'], .between) := by
  unfold shape
  split
  · rfl
  · rfl

theorem scan_nodeLine (number : Nat) (node : Node) :
    scan .between (nodeLine number node) =
      some (nodeTokens number node ++ [.mark ';'], .between) := by
  have text : nodeLine number node = [' ', ' '] ++ (((nodeId number).toList ++ " [label=".toList) ++
      (quote node.label ++ (s!", color=\"{node.color}\", shape=".toList ++
        s!"{shape node}];\n".toList))) := by
    simp only [nodeLine, toList_nodeId, numeral, String.toList_append, List.append_assoc]
    rfl
  have start : scan .between ((nodeId number).toList ++ " [label=".toList) =
      some ([.word (nodeId number).toList, .mark '[', .word "label".toList, .mark '='],
        .between) := scan_nodeId number fun _ => rfl
  have indented : scan .between [' ', ' '] = some ([], .between) := rfl
  have whole := scan_append indented (scan_append start
    (scan_append (scan_quote node.label) (scan_append (scan_color node) (scan_shape node))))
  rw [text]
  exact whole

theorem item?_nodeTokens (number : Nat) (node : Node) :
    item? (nodeTokens number node) = some (nodeItem number node) := by
  simp [nodeTokens, nodeItem, item?, attributes?, value?]

/-- The text at an edge: what is behind the last slash of its predicate. -/
def caption (predicate : String) : String :=
  String.ofList (Text.afterLast (· == '/') predicate.toList)

/-- What a line says about an edge between two numbered nodes. -/
def edgeItem (source target : Nat) (predicate : String) : Item :=
  .edge (nodeId source) (nodeId target) [("label", caption predicate), ("color", "gray")]

def edgeTokens (source target : Nat) (predicate : String) : List Token :=
  [.word (nodeId source).toList, .arrow, .word (nodeId target).toList, .mark '[',
    .word "label".toList, .mark '=', .quoted (caption predicate).toList, .mark ',',
    .word "color".toList, .mark '=', .word "gray".toList, .mark ']']

theorem scan_edgeLine (used : List Nat) (edge : Edge) :
    scan .between (edgeLine used edge) =
      some (edgeTokens (number used edge.source) (number used edge.target) edge.predicate ++
        [.mark ';'], .between) := by
  have text : edgeLine used edge = [' ', ' '] ++
      (((nodeId (number used edge.source)).toList ++ " -> ".toList) ++
        (((nodeId (number used edge.target)).toList ++ " [label=".toList) ++
          (quote (caption edge.predicate) ++ ", color=gray];\n".toList))) := by
    simp only [edgeLine, toList_nodeId, numeral, String.toList_append, List.append_assoc]
    rfl
  have source : scan .between ((nodeId (number used edge.source)).toList ++ " -> ".toList) =
      some ([.word (nodeId (number used edge.source)).toList, .arrow], .between) :=
    scan_nodeId _ fun _ => rfl
  have target : scan .between ((nodeId (number used edge.target)).toList ++ " [label=".toList) =
      some ([.word (nodeId (number used edge.target)).toList, .mark '[', .word "label".toList,
        .mark '='], .between) := scan_nodeId _ fun _ => rfl
  have color : scan .between ", color=gray];\n".toList =
      some ([.mark ',', .word "color".toList, .mark '=', .word "gray".toList, .mark ']',
        .mark ';'], .between) := rfl
  have indented : scan .between [' ', ' '] = some ([], .between) := rfl
  have whole := scan_append indented (scan_append source (scan_append target
    (scan_append (scan_quote (caption edge.predicate)) color)))
  rw [text]
  exact whole

theorem item?_edgeTokens (source target : Nat) (predicate : String) :
    item? (edgeTokens source target predicate) = some (edgeItem source target predicate) := by
  simp [edgeTokens, edgeItem, item?, attributes?, value?]

/-! ## The whole text -/

/-- The text of some nodes, numbered in their order, and of edges between used ones. -/
def document (nodes : List Node) (used : List Nat) (edges : List Edge) : List Char :=
  "digraph \x7b\n".toList ++ ((nodes.zipIdx.flatMap fun placed => nodeLine placed.2 placed.1) ++
    (edges.flatMap (edgeLine used) ++ ['}']))

/-- All nodes after the changes that types and labels make. -/
def finalNodes (statements : List Statement) : List Node :=
  (ofStatements statements).edges.foldl apply (ofStatements statements).nodes

def drawnEdges (statements : List Statement) : List Edge :=
  (ofStatements statements).edges.filter isDrawn

/-- The positions of the nodes that are drawn. -/
def usedPositions (statements : List Statement) : List Nat :=
  usedNodes (finalNodes statements).length (drawnEdges statements)

/-- The nodes that are drawn, in the order of their lines. -/
def drawnNodes (statements : List Statement) : List Node :=
  (usedPositions statements).filterMap fun index => (finalNodes statements)[index]?

theorem write_eq (statements : List Statement) :
    write statements =
      document (drawnNodes statements) (usedPositions statements) (drawnEdges statements) :=
  (List.append_assoc _ _ _).trans (List.append_assoc _ _ _)

/-- The tokens of the line of an edge. -/
def lineTokens (used : List Nat) (edge : Edge) : List Token :=
  edgeTokens (number used edge.source) (number used edge.target) edge.predicate ++ [.mark ';']

theorem scan_document (nodes : List Node) (used : List Nat) (edges : List Edge) :
    scan .between (document nodes used edges) =
      some ([.word "digraph".toList, .mark '{'] ++
        ((nodes.zipIdx.flatMap fun placed => nodeTokens placed.2 placed.1 ++ [.mark ';']) ++
          (edges.flatMap (lineTokens used) ++ [.mark '}'])), .between) := by
  have header : scan .between "digraph \x7b\n".toList =
      some ([.word "digraph".toList, .mark '{'], .between) := rfl
  have nodeLines : scan .between (nodes.zipIdx.flatMap fun placed => nodeLine placed.2 placed.1) =
      some (nodes.zipIdx.flatMap fun placed => nodeTokens placed.2 placed.1 ++ [.mark ';'],
        .between) :=
    scan_flatMap fun placed _ => scan_nodeLine placed.2 placed.1
  have edgeLines : scan .between (edges.flatMap (edgeLine used)) =
      some (edges.flatMap (lineTokens used), .between) :=
    scan_flatMap fun edge _ => scan_edgeLine used edge
  have closing : scan .between ['}'] = some ([.mark '}'], .between) := rfl
  exact scan_append header (scan_append nodeLines (scan_append edgeLines closing))

/-- The nodes and then the edges are read back from the text. -/
theorem read?_document (nodes : List Node) (used : List Nat) (edges : List Edge) :
    read? (document nodes used edges) =
      some ((nodes.zipIdx.map fun placed => nodeItem placed.2 placed.1) ++
        edges.map fun edge =>
          edgeItem (number used edge.source) (number used edge.target) edge.predicate) := by
  have nodeItems : ∀ rest : List Token, items? []
      ((nodes.zipIdx.flatMap fun placed => nodeTokens placed.2 placed.1 ++ [.mark ';']) ++ rest) =
        (items? [] rest).map ((nodes.zipIdx.map fun placed => nodeItem placed.2 placed.1) ++ ·) :=
    items?_flatMap (by simp [nodeTokens]) fun placed _ => item?_nodeTokens placed.2 placed.1
  have edgeItems : ∀ rest : List Token, items? [] (edges.flatMap (lineTokens used) ++ rest) =
      (items? [] rest).map ((edges.map fun edge =>
        edgeItem (number used edge.source) (number used edge.target) edge.predicate) ++ ·) :=
    items?_flatMap (by simp [edgeTokens]) fun edge _ => item?_edgeTokens _ _ _
  have last : items? [] [.mark '}'] = some [] := rfl
  rw [read?, tokens?_of_scan (scan_document nodes used edges)]
  simp only [List.cons_append, List.nil_append, Option.bind_eq_bind, Option.bind_some, if_true]
  rw [nodeItems, edgeItems, last, Option.map_some, Option.map_some, List.append_nil]

end Drawing

end AnswerGraph
