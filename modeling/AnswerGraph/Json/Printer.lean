import AnswerGraph.Json.Basic
import AnswerGraph.Number.Decimal
import AnswerGraph.Text.Hex

/-!
Writing JSON: compact, or with every item and member on a line of its own, indented by two blanks.
-/

namespace AnswerGraph

namespace Json

/-- Numbers are positional from `1e-5` up to below `1e16`. -/
def numberLayout : DecimalLayout := ⟨-5, 15⟩

end Json

def JsonNumber.text : JsonNumber → String
  | natural value => toString value
  | negative magnitude => "-" ++ toString magnitude
  | real value => value.shortestText Json.numberLayout

namespace Json

/-- A character inside quotes. Control characters, the quote and the backslash are escaped. -/
def escapeChar (c : Char) : List Char :=
  if c = '"' then ['\\', '"']
  else if c = '\\' then ['\\', '\\']
  else if c = '\n' then ['\\', 'n']
  else if c = '\r' then ['\\', 'r']
  else if c = '\t' then ['\\', 't']
  else if c.toNat = 8 then ['\\', 'b']
  else if c.toNat = 12 then ['\\', 'f']
  else if c.toNat < 32 then '\\' :: 'u' :: Text.hexDigits 4 c.toNat
  else [c]

def quote (text : String) : List Char :=
  '"' :: text.toList.flatMap escapeChar ++ ['"']

/-- A line break and the indentation of a depth, or nothing in compact text. -/
def lineBreak (pretty : Bool) (depth : Nat) : List Char :=
  if pretty then '\n' :: List.replicate (2 * depth) ' ' else []

mutual

/-- The text of a value that stands at a depth. -/
def print (pretty : Bool) (depth : Nat) : Json → List Char
  | .null => "null".toList
  | .bool value => (if value then "true" else "false").toList
  | .number value => value.text.toList
  | .string value => quote value
  | .array [] => ['[', ']']
  | .array (item :: items) =>
    '[' :: lineBreak pretty (depth + 1) ++ print pretty (depth + 1) item ++
      printItems pretty (depth + 1) items ++ lineBreak pretty depth ++ [']']
  | .object [] => ['{', '}']
  | .object ((key, value) :: members) =>
    '{' :: lineBreak pretty (depth + 1) ++ quote key ++
      (if pretty then [':', ' '] else [':']) ++ print pretty (depth + 1) value ++
      printMembers pretty (depth + 1) members ++ lineBreak pretty depth ++ ['}']

/-- The items after the first. -/
def printItems (pretty : Bool) (depth : Nat) : List Json → List Char
  | [] => []
  | item :: items =>
    ',' :: lineBreak pretty depth ++ print pretty depth item ++ printItems pretty depth items

/-- The members after the first. -/
def printMembers (pretty : Bool) (depth : Nat) : List (String × Json) → List Char
  | [] => []
  | (key, value) :: members =>
    ',' :: lineBreak pretty depth ++ quote key ++ (if pretty then [':', ' '] else [':']) ++
      print pretty depth value ++ printMembers pretty depth members

end

/-- The text of a value, pretty or compact. -/
def render (pretty : Bool) (value : Json) : String :=
  String.ofList (print pretty 0 value)

end Json

end AnswerGraph
