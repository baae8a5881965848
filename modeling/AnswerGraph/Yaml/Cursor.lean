/-!
A place in a YAML text: what follows it, and where it stands. A line ends at a line feed, a carriage
return (alone or before a line feed), or one of three separators beyond ASCII. The gaps between the
words of a scalar are read here as well: blanks stand for themselves, line breaks are folded.
-/

namespace AnswerGraph.Yaml

/-- A character that may occur in a text. -/
def isAllowed (c : Char) : Bool :=
  let n := c.toNat
  n == 9 || n == 10 || n == 13 || (32 ≤ n && n ≤ 126) || n == 0x85 ||
    (0xA0 ≤ n && n ≤ 0xFFFD) || 0x10000 ≤ n

def isBlank (c : Char) : Bool := c == ' ' || c == '\t'

def isBreak (c : Char) : Bool :=
  c == '\n' || c == '\r' || c.toNat == 0x85 || c.toNat == 0x2028 || c.toNat == 0x2029

/-- A character of the names of anchors, tag handles and directives. -/
def isNameChar (c : Char) : Bool := c.isAlphanum || c == '_' || c == '-'

def startsWithBreak (text : List Char) : Bool :=
  match text with
  | [] => false
  | c :: _ => isBreak c

/-- A text that starts with a line break, or is empty. -/
def isLineEnd (text : List Char) : Bool :=
  text.isEmpty || startsWithBreak text

def startsWithBlank (text : List Char) : Bool :=
  match text with
  | [] => false
  | c :: _ => isBlank c

/-- A text before which a word ends. -/
def isWordEnd (text : List Char) : Bool :=
  isLineEnd text || startsWithBlank text

structure Cursor where
  rest : List Char
  /-- Characters before the cursor. -/
  index : Nat := 0
  line : Nat := 0
  column : Nat := 0

namespace Cursor

/-- Moves over characters of a line. -/
def advance (cursor : Cursor) (count : Nat) : Cursor :=
  { cursor with
    rest := cursor.rest.drop count
    index := cursor.index + count
    column := cursor.column + count }

/-- Moves to where `rest` starts, which is on the same line. -/
def moveTo (cursor : Cursor) (rest : List Char) : Cursor :=
  cursor.advance (cursor.rest.length - rest.length)

def skipWhile (cursor : Cursor) (skip : Char → Bool) : Cursor :=
  cursor.moveTo (cursor.rest.dropWhile skip)

def skipBlanks (cursor : Cursor) : Cursor := cursor.skipWhile isBlank

/-- Moves over a comment, if there is one, to the end of the line. -/
def skipComment (cursor : Cursor) : Cursor :=
  if cursor.rest.head? = some '#' then cursor.skipWhile fun c => !isBreak c else cursor

/-- Moves over a line break, if there is one. Returns the break as a scalar keeps it. -/
def takeBreak (cursor : Cursor) : List Char × Cursor :=
  let nextLine (count : Nat) : Cursor :=
    { rest := cursor.rest.drop count
      index := cursor.index + count
      line := cursor.line + 1
      column := 0 }
  match cursor.rest with
  | '\r' :: '\n' :: _ => (['\n'], nextLine 2)
  | c :: _ =>
    if isBreak c then
      (if c.toNat = 0x2028 ∨ c.toNat = 0x2029 then [c] else ['\n'], nextLine 1)
    else ([], cursor)
  | [] => ([], cursor)

/-- A line that starts with three times `mark` as a word. -/
def atMark (cursor : Cursor) (mark : Char) : Bool :=
  cursor.column == 0 && cursor.rest.take 3 == [mark, mark, mark] && isWordEnd (cursor.rest.drop 3)

/-- A line that starts or ends a document. -/
def atDocumentMark (cursor : Cursor) : Bool :=
  cursor.atMark '-' || cursor.atMark '.'

end Cursor

/-- What stands between two words of a scalar. -/
structure Gap where
  /-- Blanks before the first line break. -/
  blanks : List Char := []
  breaks : List Char := []

namespace Gap

/-- One line break stands for a blank; of several, the first stands for nothing. -/
def fold : List Char → List Char
  | ['\n'] => [' ']
  | '\n' :: more => more
  | breaks => breaks

def text (gap : Gap) : List Char :=
  if gap.breaks.isEmpty then gap.blanks else fold gap.breaks

/-- Reads a gap; `broken` says that a line break came before. After a line break, a tab may not
stand in the columns below `indent`. -/
def take? (indent : Nat) (broken : Bool) : Nat → Cursor → Option (Gap × Cursor)
  | 0, cursor => some ({}, cursor)
  | fuel + 1, cursor =>
    match cursor.rest with
    | [] => some ({}, cursor)
    | c :: _ =>
      if isBlank c then
        if broken && cursor.column < indent && c == '\t' then none
        else do
          let (gap, after) ← take? indent broken fuel (cursor.advance 1)
          some (if broken then gap else { gap with blanks := c :: gap.blanks }, after)
      else if isBreak c then do
        let (lineBreak, next) := cursor.takeBreak
        let (gap, after) ← take? indent true fuel next
        some ({ gap with breaks := lineBreak ++ gap.breaks }, after)
      else some ({}, cursor)

end Gap

end AnswerGraph.Yaml
