import AnswerGraph.Text.Blank
import AnswerGraph.Text.Search

/-!
Condition lines, which open a block and name its keys: `IF A`, `IF A AND B`, `IF A OR B`.
-/

namespace AnswerGraph

/-- How the keys of a condition are joined. -/
inductive Joining where
  | only
  | and
  | or
  deriving DecidableEq, Repr

def Joining.name : Joining → String
  | only => "Only"
  | and => "And"
  | or => "Or"

/-- The keys of a block and how they are joined. -/
structure Condition where
  keys : List String
  joining : Joining
  deriving DecidableEq, Repr

namespace Condition

/-- The keyword opens a condition only as a word of its own, or before a colon. -/
def opens (line : List Char) : Bool :=
  match Text.dropPrefix? "IF".toList line with
  | some [] => true
  | some (c :: _) => Text.isBlank c || c == ':'
  | none => false

/-- The text of a condition without its keyword, its colons and the blanks around it. -/
def expression (line : List Char) : List Char :=
  Text.trim (((Text.dropPrefix? "IF".toList line).getD line).filter (· != ':'))

/-- The parts of an expression. `AND` binds first: a text with both words is split at `AND` only. -/
def split (expression : List Char) : List (List Char) × Joining :=
  if Text.contains " AND ".toList expression then
    (Text.splitOn " AND ".toList expression, .and)
  else if Text.contains " OR ".toList expression then
    (Text.splitOn " OR ".toList expression, .or)
  else
    ([expression], .only)

/-- The condition on a line; keys that are blank do not count. -/
def ofLine (line : List Char) : Condition :=
  let (parts, joining) := split (expression line)
  ⟨((parts.map Text.trim).filter (!·.isEmpty)).map String.ofList, joining⟩

end Condition

end AnswerGraph
