import AnswerGraph.Pattern.Line
import AnswerGraph.Pattern.Outline

/-!
Compiled pattern texts. The patterns of a set are numbered in the order of their blocks; a block
names its pattern by number, so that all keys of a block share one pattern.
-/

namespace AnswerGraph

/-- The compiled lines of a block. -/
abbrev TriplePattern := List StatementPattern

/-- A block of a compiled set. -/
structure Block where
  condition : Condition
  /-- The number of the block's pattern. -/
  pattern : Nat
  /-- The line of the condition, counted from 1. -/
  line : Nat
  deriving DecidableEq, Repr

namespace Block

def keys (block : Block) : List String := block.condition.keys

def isMultiKey (block : Block) : Bool := block.keys.length > 1

def hasKey (block : Block) (key : String) : Bool := block.keys.contains key

end Block

structure PatternSet where
  namespaces : Namespaces
  variableTable : Variables
  patterns : List TriplePattern
  blocks : List Block
  deriving DecidableEq, Repr

namespace PatternSet

/-- The patterns registered under a key, once for each time that a block lists the key. -/
def patternsFor (set : PatternSet) (key : String) : List Nat :=
  set.blocks.flatMap fun block => (block.keys.filter (· == key)).map fun _ => block.pattern

/-- The keys of all blocks, each once, in the order of their first appearance. -/
def keys (set : PatternSet) : List String :=
  (set.blocks.flatMap Block.keys).foldl
    (fun seen key => if key ∈ seen then seen else seen ++ [key]) []

/-- The pattern of a number; a number that the set does not have names the empty pattern. -/
def pattern (set : PatternSet) (number : Nat) : TriplePattern :=
  (set.patterns[number]?).getD []

def size (set : PatternSet) : Nat := set.patterns.length

def isEmpty (set : PatternSet) : Bool := set.patterns.isEmpty

/-- Whether one of two texts starts with the other. -/
def overlaps (root base : String) : Bool :=
  Text.startsWith root.toList base.toList || Text.startsWith base.toList root.toList

/-- Refuses roots that could make a prefixed name equal to a variable's identifier. -/
def checkRoots (base : String) : List (String × String) → Except PatternError Unit
  | [] => .ok ()
  | (namePrefix, root) :: rest =>
    if overlaps root base then .error (.namespaceCollision namePrefix root base)
    else checkRoots base rest

/-- The variables of some lines, in order of first appearance. -/
def internLines (base : String) (lines : List (Nat × List Char)) : Variables :=
  ((lines.flatMap fun line => Text.words line.2).filterMap variableName?).foldl
    (fun table name => table.intern (String.ofList name)) { base }

/-- Compiles the lines of a block, leaving out those without tokens. -/
def compileBody (namespaces : Namespaces) (variableTable : Variables) :
    List (Nat × List Char) → Except PatternError TriplePattern
  | [] => .ok []
  | (number, line) :: rest => do
    let compiled ← StatementPattern.ofLine? line number namespaces variableTable
    let more ← compileBody namespaces variableTable rest
    .ok (compiled.toList ++ more)

def ofOutline (base : String) (outline : Outline) : Except PatternError PatternSet := do
  checkRoots base outline.namespaces.entries
  let variableTable := internLines base outline.bodyLines
  let patterns ← outline.blocks.mapM fun block =>
    compileBody outline.namespaces variableTable block.body
  .ok {
    namespaces := outline.namespaces
    variableTable
    patterns
    blocks := outline.blocks.zipIdx.map fun (block, number) =>
      { condition := block.condition, pattern := number, line := block.line } }

/-- Compiles a pattern text whose variables are identified under `base`. -/
def ofText (base text : String) : Except PatternError PatternSet := do
  ofOutline base (← Outline.ofText text.toList)

end PatternSet

end AnswerGraph
