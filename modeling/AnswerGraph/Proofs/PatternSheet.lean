import AnswerGraph.Graph.Basic
import AnswerGraph.Pattern.PatternSet
import AnswerGraph.Proofs.Words
import Mathlib.Tactic.MkIffOfInductiveProp

/-!
Pattern texts as they are written. A sheet has declarations, and blocks with their conditions and
lines; its text has one of these a line, and a blank line behind the declarations and behind each
block. What a sheet stands for is said without reading its text.
-/

namespace AnswerGraph

/-- A component as it is written. -/
inductive SheetComponent where
  | named (name : String)
  | prefixed (namePrefix name : String)
  | answer
  | literal (value : String)
  deriving DecidableEq, Repr

structure SheetBlock where
  condition : Condition
  lines : List (List SheetComponent)
  deriving DecidableEq, Repr

structure PatternSheet where
  /-- Prefixes with their roots. -/
  declarations : List (String × String)
  blocks : List SheetBlock
  deriving DecidableEq, Repr

/-! ## Writing -/

namespace SheetComponent

def token : SheetComponent → List Char
  | named name => '<' :: name.toList ++ ['>']
  | prefixed namePrefix name => namePrefix.toList ++ ':' :: name.toList
  | answer => answerMarker.toList
  | literal value => value.toList

/-- The components with single blanks between them, and a dot behind the last. -/
def writeLine (line : List SheetComponent) : List Char :=
  Text.spaced (line.map token ++ [['.']])

end SheetComponent

/-- The word between two keys. A single key has none behind it. -/
def Joining.word : Joining → List Char
  | only => []
  | and => "AND".toList
  | or => "OR".toList

def Condition.write (condition : Condition) : List Char :=
  Text.spaced ("IF".toList ::
    (condition.keys.map String.toList).intersperse condition.joining.word) ++ [':']

def writeDeclaration (declaration : String × String) : List Char :=
  declaration.1.toList ++ ": <".toList ++ declaration.2.toList ++ ['>']

/-- The lines of a block that are not blank. -/
def SheetBlock.writtenLines (block : SheetBlock) : List (List Char) :=
  block.condition.write :: block.lines.map SheetComponent.writeLine

namespace PatternSheet

/-- The lines of the declarations. -/
def headerLines (sheet : PatternSheet) : List (List Char) :=
  "NAMESPACES".toList :: sheet.declarations.map writeDeclaration

def writtenLines (sheet : PatternSheet) : List (List Char) :=
  sheet.headerLines ++ [] :: sheet.blocks.flatMap fun block => block.writtenLines ++ [[]]

def text (sheet : PatternSheet) : String :=
  String.ofList (sheet.writtenLines.flatMap (· ++ ['\n']))

end PatternSheet

/-! ## What can be written -/

/-- A word without the marks of a declaration that is not the keyword of conditions. -/
@[mk_iff]
structure WritablePrefix (namePrefix : String) : Prop where
  word : Text.IsWord namePrefix.toList
  unmarked : ':' ∉ namePrefix.toList ∧ '<' ∉ namePrefix.toList ∧ '>' ∉ namePrefix.toList
  keyless : namePrefix ≠ "IF"

instance (namePrefix : String) : Decidable (WritablePrefix namePrefix) :=
  decidable_of_iff' _ (writablePrefix_iff namePrefix)

/-- A prefix, and a root that fits between brackets on one line and does not overlap the base of the
variables. -/
@[mk_iff]
structure WritableDeclaration (base : String) (declaration : String × String) : Prop where
  prefixed : WritablePrefix declaration.1
  rooted : declaration.2 ≠ ""
  trimmed : Text.Trimmed declaration.2.toList
  unclosed : '>' ∉ declaration.2.toList
  unbroken : '\n' ∉ declaration.2.toList
  apart : ¬ declaration.2.toList <+: base.toList ∧ ¬ base.toList <+: declaration.2.toList

instance (base : String) (declaration : String × String) :
    Decidable (WritableDeclaration base declaration) :=
  decidable_of_iff' _ (writableDeclaration_iff base declaration)

/-- One key alone or several with a word between them, which is none of the keys. -/
@[mk_iff]
structure Condition.Writable (condition : Condition) : Prop where
  keyed : condition.keys ≠ []
  joined : condition.joining = .only ↔ condition.keys.length = 1
  word : ∀ key ∈ condition.keys, Text.IsWord key.toList
  unmarked : ∀ key ∈ condition.keys, ':' ∉ key.toList
  apart : ∀ key ∈ condition.keys, key ≠ "AND" ∧ key ≠ "OR"

instance (condition : Condition) : Decidable condition.Writable :=
  decidable_of_iff' _ (Condition.writable_iff condition)

/-- A component that cannot be taken for another; the prefixes in `declared` are known. -/
def SheetComponent.Writable (declared : List String) : SheetComponent → Prop
  | named name => Text.IsWord name.toList ∧ name.toList.getLast? ≠ some '.'
  | prefixed namePrefix name =>
    namePrefix ∈ declared ∧ Text.Solid name.toList
  | answer => True
  | literal value =>
    Text.IsWord value.toList ∧ ':' ∉ value.toList ∧ value.toList.head? ≠ some '<' ∧
      value ≠ answerMarker

instance (declared : List String) :
    (component : SheetComponent) → Decidable (component.Writable declared)
  | .named _ => inferInstanceAs (Decidable (_ ∧ _))
  | .prefixed _ _ => inferInstanceAs (Decidable (_ ∧ _))
  | .answer => inferInstanceAs (Decidable True)
  | .literal _ => inferInstanceAs (Decidable (_ ∧ _))

/-- Lines with components, none of which starts with the keyword of conditions. -/
@[mk_iff]
structure SheetBlock.Writable (declared : List String) (block : SheetBlock) : Prop where
  condition : block.condition.Writable
  filled : ∀ line ∈ block.lines, line ≠ []
  component : ∀ line ∈ block.lines, ∀ component ∈ line, component.Writable declared
  keyless : ∀ line ∈ block.lines, line.head? ≠ some (.literal "IF")

instance (declared : List String) (block : SheetBlock) : Decidable (block.Writable declared) :=
  decidable_of_iff' _ (SheetBlock.writable_iff declared block)

namespace PatternSheet

/-- The declared prefixes. -/
def declared (sheet : PatternSheet) : List String := sheet.declarations.map Prod.fst

@[mk_iff]
structure Writable (base : String) (sheet : PatternSheet) : Prop where
  distinct : sheet.declared.Nodup
  declaration : ∀ declaration ∈ sheet.declarations, WritableDeclaration base declaration
  block : ∀ block ∈ sheet.blocks, block.Writable sheet.declared

instance (base : String) (sheet : PatternSheet) : Decidable (sheet.Writable base) :=
  decidable_of_iff' _ (writable_iff base sheet)

end PatternSheet

/-! ## What is meant -/

/-- The name of a variable. -/
def SheetComponent.variable? : SheetComponent → Option String
  | named name => some name
  | _ => none

namespace PatternSheet

/-- The variables of all blocks, each once, in the order of their first appearance. -/
def variableNames (sheet : PatternSheet) : List String :=
  firsts (sheet.blocks.flatMap fun block =>
    block.lines.flatMap fun line => line.filterMap SheetComponent.variable?)

/-- What a component stands for: a variable has the number of its first appearance. -/
def component (base : String) (sheet : PatternSheet) : SheetComponent → Component
  | .named name => .named name (base ++ toString (sheet.variableNames.idxOf name))
  | .prefixed namePrefix name =>
    .namespaced ((sheet.declarations.lookup namePrefix).getD "") name
  | .answer => .placeholder
  | .literal value => .literal value

/-- Blocks with the lines of their conditions, the first of which is `line`. -/
def placedFrom (line : Nat) : List SheetBlock → List (Nat × SheetBlock)
  | [] => []
  | block :: rest => (line, block) :: placedFrom (line + block.lines.length + 2) rest

/-- The blocks with the lines of their conditions. The first stands behind the word that starts the
declarations, the declarations and a blank line. -/
def placedBlocks (sheet : PatternSheet) : List (Nat × SheetBlock) :=
  placedFrom (sheet.declarations.length + 3) sheet.blocks

def compiled (base : String) (sheet : PatternSheet) : PatternSet where
  namespaces := ⟨sheet.declarations⟩
  variableTable := { base, names := sheet.variableNames }
  patterns := sheet.blocks.map fun block =>
    block.lines.map fun line => ⟨line.map (sheet.component base)⟩
  blocks := sheet.placedBlocks.zipIdx.map fun ((line, block), pattern) =>
    { condition := block.condition, pattern, line }

end PatternSheet

end AnswerGraph
