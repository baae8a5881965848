import AnswerGraph.Text.Hex
import AnswerGraph.Yaml.Cursor

/-!
The scalars of a YAML text: plain words, quoted texts, and blocks of lines.
-/

namespace AnswerGraph.Yaml

inductive ScalarStyle where
  | plain
  | singleQuoted
  | doubleQuoted
  | literal
  | folded
  deriving DecidableEq, Repr

/-! ## Plain scalars -/

/-- A word of a plain scalar, up to a blank or an indicator. In a flow collection a colon must not
touch one of the collection's indicators. -/
def plainWord? (inFlow : Bool) : List Char → Option (List Char × List Char)
  | [] => some ([], [])
  | c :: rest =>
    if isBlank c || isBreak c then some ([], c :: rest)
    else if inFlow && c == ':' && rest.head?.any [',', '?', '[', ']', '{', '}'].contains then none
    else if c == ':' && isWordEnd rest then some ([], c :: rest)
    else if inFlow && [',', '[', ']', '{', '}'].contains c then some ([], c :: rest)
    else (plainWord? inFlow rest).map fun (word, after) => (c :: word, after)

/-- Reads the words of a plain scalar, `gap` being what precedes the first. Lines must be indented
by `indent` columns unless they are in a flow collection. Also says whether a line break was passed
after the last word. -/
def plainWords? (inFlow : Bool) (indent : Nat) :
    Nat → Gap → Cursor → Option (List Char × Bool × Cursor)
  | 0, _, _ => none
  | fuel + 1, gap, cursor =>
    let stop : List Char × Bool × Cursor := ([], !gap.breaks.isEmpty, cursor)
    if cursor.atDocumentMark || cursor.rest.head? == some '#' then some stop
    else do
      let (word, rest) ← plainWord? inFlow cursor.rest
      if word.isEmpty then some stop
      else
        let cursor := cursor.moveTo rest
        let (next, after) ← Gap.take? indent false (rest.length + 1) cursor
        if (next.blanks.isEmpty && next.breaks.isEmpty) || (!inFlow && after.column < indent) then
          some (gap.text ++ word, !next.breaks.isEmpty, after)
        else do
          let (words, broken, after) ← plainWords? inFlow indent fuel next after
          some (gap.text ++ word ++ words, broken, after)

/-! ## Quoted scalars -/

/-- The character of a short escape. -/
def escaped? (c : Char) : Option Char :=
  match c with
  | '0' => some (Char.ofNat 0)
  | 'a' => some (Char.ofNat 7)
  | 'b' => some (Char.ofNat 8)
  | 't' => some '\t'
  | '\t' => some '\t'
  | 'n' => some '\n'
  | 'v' => some (Char.ofNat 11)
  | 'f' => some (Char.ofNat 12)
  | 'r' => some '\r'
  | 'e' => some (Char.ofNat 27)
  | ' ' => some ' '
  | '"' => some '"'
  | '/' => some '/'
  | '\\' => some '\\'
  | 'N' => some (Char.ofNat 0x85)
  | '_' => some (Char.ofNat 0xA0)
  | 'L' => some (Char.ofNat 0x2028)
  | 'P' => some (Char.ofNat 0x2029)
  | _ => none

/-- The digits of an escape that gives the number of a character. -/
def escapeLength? (c : Char) : Option Nat :=
  match c with
  | 'x' => some 2
  | 'u' => some 4
  | 'U' => some 8
  | _ => none

def numbered? (digits : List Char) (count : Nat) : Option Char := do
  let value ← Text.hexNumber? digits
  if digits.length = count ∧ value.isValidChar then some (Char.ofNat value) else none

/-- A word between double quotes. Also says whether it ends with an escaped line break. -/
def doubleQuotedWord? : Nat → List Char → Option (List Char × Bool × List Char)
  | 0, _ => none
  | fuel + 1, text =>
    match text with
    | [] => some ([], false, [])
    | '\\' :: rest =>
      if startsWithBreak rest then some ([], true, rest)
      else
        match rest with
        | [] => none
        | c :: rest => do
          let (value, rest) ←
            match escaped? c, escapeLength? c with
            | some value, _ => some (value, rest)
            | none, some count => (numbered? (rest.take count) count).map (·, rest.drop count)
            | none, none => none
          let (word, broken, after) ← doubleQuotedWord? fuel rest
          some (value :: word, broken, after)
    | c :: rest =>
      if c == '"' || isBlank c || isBreak c then some ([], false, c :: rest)
      else (doubleQuotedWord? fuel rest).map fun (word, after) => (c :: word, after)

/-- A word between single quotes, in which a quote is written twice. -/
def singleQuotedWord : List Char → List Char × List Char
  | [] => ([], [])
  | '\'' :: '\'' :: rest =>
    let (word, after) := singleQuotedWord rest
    ('\'' :: word, after)
  | c :: rest =>
    if c == '\'' || isBlank c || isBreak c then ([], c :: rest)
    else
      let (word, after) := singleQuotedWord rest
      (c :: word, after)

/-- Reads a quoted scalar after its opening quote. -/
def quoted? (quote : Char) : Nat → Cursor → Option (List Char × Cursor)
  | 0, _ => none
  | fuel + 1, cursor =>
    if cursor.atDocumentMark || cursor.rest.isEmpty then none
    else do
      let (word, broken, rest) ←
        if quote == '"' then doubleQuotedWord? (cursor.rest.length + 1) cursor.rest
        else
          let (word, rest) := singleQuotedWord cursor.rest
          some (word, false, rest)
      let cursor := cursor.moveTo rest
      let cursor := if broken then cursor.takeBreak.2 else cursor
      if cursor.rest.head? == some quote then some (word, cursor.advance 1)
      else
        let (gap, after) ← Gap.take? 0 broken (cursor.rest.length + 1) cursor
        let (words, after) ← quoted? quote fuel after
        some (word ++ (if broken then gap.breaks else gap.text) ++ words, after)

/-! ## Block scalars -/

/-- Which line breaks at its end a block keeps. -/
inductive Chomping where
  | strip
  | clip
  | keep
  deriving DecidableEq, Repr

/-- What follows the indicator of a block: chomping and indentation, in any order. -/
def blockHeader? (text : List Char) : Option (Chomping × Option Nat × List Char) :=
  let chomping : List Char → Option Chomping × List Char
    | '+' :: rest => (some .keep, rest)
    | '-' :: rest => (some .strip, rest)
    | rest => (none, rest)
  let indentation : List Char → Option (Option Nat × List Char)
    | [] => some (none, [])
    | c :: rest =>
      if c == '0' then none
      else if c.isDigit then some (some (c.toNat - 48), rest)
      else some (none, c :: rest)
  match chomping text with
  | (some found, rest) => (indentation rest).map fun (columns, rest) => (found, columns, rest)
  | (none, rest) => do
    let (columns, rest) ← indentation rest
    match columns with
    | none => some (.clip, none, rest)
    | some _ =>
      let (found, rest) := chomping rest
      some (found.getD .clip, columns, rest)

/-- Moves over the indentation of a line: up to `indent` columns, or all blanks if it is not known
yet. A tab may not take part in it. -/
def skipIndentation? (indent : Option Nat) (cursor : Cursor) : Option Cursor :=
  let spaces := (cursor.rest.takeWhile (· == ' ')).length
  let cursor := cursor.advance (min spaces ((indent.getD (cursor.column + spaces)) - cursor.column))
  if indent.all (cursor.column < ·) && cursor.rest.head? == some '\t' then none else some cursor

/-- Reads empty lines of a block and the indentation of the line after them. Returns the line
breaks and the deepest column that was met. -/
def emptyLines? (indent : Option Nat) : Nat → Cursor → Option (List Char × Nat × Cursor)
  | 0, _ => none
  | fuel + 1, cursor => do
    let cursor ← skipIndentation? indent cursor
    if startsWithBreak cursor.rest then
      let (lineBreak, next) := cursor.takeBreak
      let (breaks, deepest, after) ← emptyLines? indent fuel next
      some (lineBreak ++ breaks, max cursor.column deepest, after)
    else some ([], cursor.column, cursor)

/-- The text of a block and the line breaks after its last line: the first, and those of the empty
lines that follow. -/
structure BlockLines where
  text : List Char
  lineBreak : List Char
  breaks : List Char

/-- Reads the lines of a block. `lineBreak` and `breaks` precede the line at hand; `afterBlank` says
that the line before them started with a blank. -/
def blockLines? (folded : Bool) (indent : Nat) (lineBreak breaks : List Char) (afterBlank : Bool) :
    Nat → Cursor → Option (BlockLines × Cursor)
  | 0, _ => none
  | fuel + 1, cursor =>
    if cursor.column != indent || cursor.rest.isEmpty then some (⟨[], lineBreak, breaks⟩, cursor)
    else do
      let blank := startsWithBlank cursor.rest
      let joint :=
        if folded && lineBreak.head? == some '\n' && !afterBlank && !blank then
          (if breaks.isEmpty then [' '] else [])
        else lineBreak
      let line := cursor.rest.takeWhile fun c => !isBreak c
      let (nextBreak, next) := (cursor.advance line.length).takeBreak
      let (nextBreaks, _, after) ← emptyLines? (some indent) (next.rest.length + 1) next
      let (found, after) ← blockLines? folded indent nextBreak nextBreaks blank fuel after
      some ({ found with text := joint ++ breaks ++ line ++ found.text }, after)

/-- Reads a block scalar after its indicator; it is a part of a node at column `parent`. -/
def block? (folded : Bool) (parent : Int) (cursor : Cursor) : Option (List Char × Cursor) := do
  let (chomping, columns, rest) ← blockHeader? cursor.rest
  let cursor := (cursor.moveTo rest).skipBlanks.skipComment
  if !isLineEnd cursor.rest then none
  else
    let start := cursor.takeBreak.2
    let known := columns.map fun columns => (max parent 0).toNat + columns
    let fuel := start.rest.length + 1
    let (breaks, deepest, first) ← emptyLines? known fuel start
    let indent := known.getD (max deepest (max (parent + 1).toNat 1))
    let (lines, after) ← blockLines? folded indent [] breaks false fuel first
    let tail :=
      match chomping with
      | .strip => []
      | .clip => lines.lineBreak
      | .keep => lines.lineBreak ++ lines.breaks
    some (lines.text ++ tail, after)

end AnswerGraph.Yaml
