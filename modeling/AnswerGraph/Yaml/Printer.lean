import AnswerGraph.Json.Printer
import AnswerGraph.Yaml.Ambiguous
import AnswerGraph.Yaml.Scalar

/-!
Writing values as YAML text: members and items in blocks, texts without quotes where that is safe,
and texts of several lines as literal blocks.
-/

namespace AnswerGraph.Yaml

/-! ## Texts -/

/-- A character that can be seen, or a line feed. -/
def isPrintable (c : Char) : Bool :=
  let n := c.toNat
  n == 10 || (32 ≤ n && n ≤ 126) || (0xA0 ≤ n && n ≤ 0xFFFD && n != 0xFEFF) || 0x10000 ≤ n

/-- An indicator that a plain scalar must not start with, whatever follows. -/
def isStrongIndicator (c : Char) : Bool :=
  ['#', ',', '[', ']', '{', '}', '&', '*', '!', '|', '>', '\'', '"', '%', '@', '`'].contains c

/-- Whether a colon before a blank, or a comment, is in the rest of a text; `afterBlank` says that a
blank precedes the rest. -/
def hasInnerIndicator (afterBlank : Bool) : List Char → Bool
  | [] => false
  | c :: rest =>
    (c == ':' && isWordEnd rest) || (c == '#' && afterBlank) ||
      hasInnerIndicator (isBlank c || isBreak c) rest

/-- Whether a text has indicators that would be taken for marks in a block. -/
def hasIndicator (text : List Char) : Bool :=
  ["---", "..."].any (fun mark => text.take 3 == mark.toList) ||
    match text with
    | [] => false
    | c :: rest =>
      isStrongIndicator c || ((c == '?' || c == ':' || c == '-') && isWordEnd rest) ||
        hasInnerIndicator (isBlank c || isBreak c) rest

/-- Whether two characters stand next to each other. -/
def hasPair (first second : Char → Bool) : List Char → Bool
  | a :: b :: rest => (first a && second b) || hasPair first second (b :: rest)
  | _ => false

def isSpace (c : Char) : Bool := c == ' '

/-- How a text is written. Where a style does not fit, the next one that does is taken: plain, then
single quotes, then double quotes. -/
def styleOf (text : List Char) : ScalarStyle :=
  let special := text.any (!isPrintable ·)
  let spaceBeforeBreak := hasPair isSpace isBreak text
  if text.contains '\n' then
    if special || spaceBeforeBreak || text.getLast? == some ' ' then .doubleQuoted else .literal
  else
    let edges := [text.head?, text.getLast?].any (·.any fun c => isSpace c || isBreak c)
    if special || spaceBeforeBreak || hasPair isBreak isSpace text then .doubleQuoted
    else if isAmbiguous (String.ofList text) || edges || text.any isBreak || hasIndicator text then
      .singleQuoted
    else .plain

def capitalHex (width value : Nat) : List Char := (Text.hexDigits width value).map Char.toUpper

/-- A character between double quotes. -/
def escape (c : Char) : List Char :=
  let n := c.toNat
  if c == '"' || c == '\\' then ['\\', c]
  else if c == '\n' then ['\\', 'n']
  else if n == 0 then ['\\', '0']
  else if n == 7 then ['\\', 'a']
  else if n == 8 then ['\\', 'b']
  else if n == 9 then ['\\', 't']
  else if n == 11 then ['\\', 'v']
  else if n == 12 then ['\\', 'f']
  else if n == 13 then ['\\', 'r']
  else if n == 27 then ['\\', 'e']
  else if n == 0x85 then ['\\', 'N']
  else if n == 0x2028 then ['\\', 'L']
  else if n == 0x2029 then ['\\', 'P']
  else if isPrintable c then [c]
  else if n ≤ 0xFF then '\\' :: 'x' :: capitalHex 2 n
  else if n ≤ 0xFFFF then '\\' :: 'u' :: capitalHex 4 n
  else '\\' :: 'U' :: capitalHex 8 n

def spaces (count : Nat) : List Char := List.replicate count ' '

/-- The characters of a text in lines that are indented. A quote is written twice if `quoted`. -/
def indented (indent : Nat) (quoted afterBreak : Bool) : List Char → List Char
  | [] => if quoted && afterBreak then spaces indent else []
  | c :: rest =>
    if isBreak c then c :: indented indent quoted true rest
    else
      (if afterBreak then spaces indent else []) ++
        (if quoted && c == '\'' then ['\'', c] else [c]) ++ indented indent quoted false rest

/-- What follows the indicator of a literal block: its indentation, if its first line does not show
that, and what happens to line breaks at its end. -/
def literalHeader (text : List Char) : List Char :=
  (if text.head?.any (fun c => isSpace c || isBreak c) then ['2'] else []) ++
    match text.reverse with
    | [] => ['-']
    | [last] => if isBreak last then ['+'] else ['-']
    | last :: before :: _ =>
      if !isBreak last then ['-'] else if isBreak before then ['+'] else []

/-- A text and the end of its line; further lines are indented. -/
def textLines (indent : Nat) (text : List Char) : List Char :=
  match styleOf text with
  | .literal =>
    let lines := indented indent false true text
    '|' :: literalHeader text ++ '\n' :: lines ++
      (if text.getLast?.any isBreak then [] else ['\n'])
  | .doubleQuoted => '"' :: text.flatMap escape ++ ['"', '\n']
  | .singleQuoted => '\'' :: indented indent true false text ++ ['\'', '\n']
  | _ => text ++ ['\n']

/-! ## Values -/

/-- A value that is written on the line of its key or mark. -/
def inlineLines (indent : Nat) (value : Json) : List Char :=
  match value with
  | .string text => textLines indent text.toList
  | other => (other.render false).toList ++ ['\n']

mutual

/-- The lines of a value, of which the first one starts behind `indent` columns. -/
def blockLines (indent : Nat) : Json → List Char
  | .array (item :: items) => '-' :: ' ' :: blockLines (indent + 2) item ++ itemLines indent items
  | .object ((key, value) :: members) =>
    (inlineLines indent (.string key)).dropLast ++ memberValue indent value ++
      memberLines indent members
  | value => inlineLines indent value

/-- The items after the first. -/
def itemLines (indent : Nat) : List Json → List Char
  | [] => []
  | item :: items =>
    spaces indent ++ '-' :: ' ' :: blockLines (indent + 2) item ++ itemLines indent items

/-- The members after the first. -/
def memberLines (indent : Nat) : List (String × Json) → List Char
  | [] => []
  | (key, value) :: members =>
    spaces indent ++ (inlineLines indent (.string key)).dropLast ++ memberValue indent value ++
      memberLines indent members

/-- What follows a key. A list is not indented, a record is. -/
def memberValue (indent : Nat) : Json → List Char
  | .array (item :: items) =>
    ':' :: '\n' :: spaces indent ++ '-' :: ' ' :: blockLines (indent + 2) item ++
      itemLines indent items
  | .object ((key, value) :: members) =>
    ':' :: '\n' :: spaces (indent + 2) ++ (inlineLines indent (.string key)).dropLast ++
      memberValue (indent + 2) value ++ memberLines (indent + 2) members
  | value => ':' :: ' ' :: inlineLines (indent + 2) value

end

/-- The YAML text of a value. -/
def render (value : Json) : String :=
  String.ofList (blockLines 0 value)

end AnswerGraph.Yaml
