import AnswerGraph.Pattern.Condition
import AnswerGraph.Pattern.Declaration
import AnswerGraph.Pattern.Namespaces

/-!
The outline of a pattern text: its declarations, and its blocks with their lines still uncompiled.
It is read line by line. A blank line closes the open block; a block that no blank line follows is
never closed, so its lines have no effect.
-/

namespace AnswerGraph

/-- A block as it is written. -/
structure RawBlock where
  condition : Condition
  /-- The line of the condition, counted from 1. -/
  line : Nat
  body : List (Nat × List Char) := []
  deriving DecidableEq, Repr

/-- What has been read so far. -/
structure Outline where
  namespaces : Namespaces := {}
  blocks : List RawBlock := []
  current : Option RawBlock := none
  /-- Whether declarations are expected: since a line with the word NAMESPACE. -/
  declaring : Bool := false
  deriving DecidableEq, Repr

namespace Outline

def closeBlock (outline : Outline) : Outline :=
  { outline with
    blocks := outline.blocks ++ outline.current.toList
    current := none
    declaring := false }

def openBlock (outline : Outline) (number : Nat) (line : List Char) :
    Except PatternError Outline :=
  if outline.current.isSome then .error (.nestedCondition number)
  else
    let condition := Condition.ofLine line
    if condition.keys.isEmpty then .error (.emptyCondition number)
    else .ok { outline with current := some { condition, line := number } }

/-- A line outside of all blocks. The line that starts the declarations may itself be one. -/
def declareLine (outline : Outline) (number : Nat) (line : List Char) :
    Except PatternError Outline :=
  let declaring := outline.declaring || Text.contains "NAMESPACE".toList line
  match declaring, Declaration.ofLine? line with
  | true, some found => do
    let namespaces ← outline.namespaces.declare
      (String.ofList found.namePrefix) (String.ofList found.root) number
    .ok { outline with namespaces, declaring }
  | _, _ => .ok { outline with declaring }

/-- Reads the line of a number. -/
def readLine (outline : Outline) (number : Nat) (line : List Char) : Except PatternError Outline :=
  if Text.isAllBlank line then .ok outline.closeBlock
  else if Condition.opens line then outline.openBlock number line
  else
    match outline.current with
    | some block =>
      .ok { outline with current := some { block with body := block.body ++ [(number, line)] } }
    | none => outline.declareLine number line

/-- Reads lines that are numbered from `number` on. -/
def readLines (outline : Outline) (number : Nat) : List (List Char) → Except PatternError Outline
  | [] => .ok outline
  | line :: rest => do
    let next ← outline.readLine number line
    next.readLines (number + 1) rest

def ofText (text : List Char) : Except PatternError Outline :=
  readLines {} 1 (Text.lines text)

/-- The lines of all closed blocks. -/
def bodyLines (outline : Outline) : List (Nat × List Char) :=
  outline.blocks.flatMap RawBlock.body

end Outline

end AnswerGraph
