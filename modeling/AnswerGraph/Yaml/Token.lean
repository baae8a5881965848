import AnswerGraph.Yaml.Property
import AnswerGraph.Yaml.Scalar

/-!
The tokens of a YAML text. Blocks are made explicit by tokens where lines are indented more or less
than those before. A key of a mapping need not be marked: it is recognised by the colon after it, if
that stands on the same line and not too far away; the marks are then put in front of it.
-/

namespace AnswerGraph.Yaml

inductive Token where
  | directive (value : Directive)
  | documentStart
  | documentEnd
  | blockListStart
  | blockRecordStart
  | blockEnd
  | flowListStart
  | flowListEnd
  | flowRecordStart
  | flowRecordEnd
  | blockEntry
  | flowEntry
  | key
  | value
  | alias (name : String)
  | anchor (name : String)
  | tag (tag : Tag)
  | scalar (text : String) (style : ScalarStyle)
  deriving DecidableEq, Repr

/-- A place where a key without mark may have started. -/
structure OpenKey where
  /-- The line can only be understood as a key. -/
  required : Bool
  /-- The tokens before the key. -/
  position : Nat
  index : Nat
  line : Nat
  column : Nat

/-- How far a key may reach. -/
def maxKeyLength : Nat := 1024

/-- The state of reading tokens. -/
structure Scanner where
  cursor : Cursor
  /-- The tokens read so far, the last one first. -/
  tokens : List Token := []
  /-- The column of the innermost block, or -1. -/
  indent : Int := -1
  outerIndents : List Int := []
  /-- A key without mark may start here. -/
  keyAllowed : Bool := true
  openKey : Option OpenKey := none
  /-- The open keys around each flow collection that is not closed yet. -/
  outerKeys : List (Option OpenKey) := []

namespace Scanner

def inFlow (scanner : Scanner) : Bool := !scanner.outerKeys.isEmpty

def push (scanner : Scanner) (token : Token) : Scanner :=
  { scanner with tokens := token :: scanner.tokens }

/-- Reads an indicator of some characters. -/
def take (scanner : Scanner) (count : Nat) (token : Token) : Scanner :=
  { scanner with cursor := scanner.cursor.advance count, tokens := token :: scanner.tokens }

/-- Puts a token where `position` tokens precede it. -/
def insertAt (scanner : Scanner) (position : Nat) (token : Token) : Scanner :=
  let behind := scanner.tokens.length - position
  { scanner with
    tokens := scanner.tokens.take behind ++ token :: scanner.tokens.drop behind }

/-! ## Blocks -/

/-- Opens a block at a column that is deeper than the innermost one. -/
def openBlock (scanner : Scanner) (column : Nat) (position : Nat) (token : Token) : Scanner :=
  if scanner.inFlow || (column : Int) ≤ scanner.indent then scanner
  else
    { scanner.insertAt position token with
      indent := column
      outerIndents := scanner.indent :: scanner.outerIndents }

/-- Opens a block at the cursor. -/
def openBlockHere (scanner : Scanner) (token : Token) : Scanner :=
  scanner.openBlock scanner.cursor.column scanner.tokens.length token

def closeBlocksFrom (scanner : Scanner) (column : Int) : List Int → Scanner
  | [] => scanner
  | outer :: rest =>
    if column < scanner.indent then
      closeBlocksFrom { scanner.push .blockEnd with indent := outer, outerIndents := rest }
        column rest
    else scanner

/-- Closes the blocks that are deeper than a column. -/
def closeBlocks (scanner : Scanner) (column : Int) : Scanner :=
  if scanner.inFlow then scanner else scanner.closeBlocksFrom column scanner.outerIndents

/-! ## Keys without mark -/

/-- Gives up an open key, unless it is required. -/
def dropKey? (scanner : Scanner) : Option Scanner :=
  if scanner.openKey.any (·.required) then none else some { scanner with openKey := none }

/-- Opens a key at the cursor, if one is allowed. -/
def openKey? (scanner : Scanner) : Option Scanner :=
  if scanner.keyAllowed then
    scanner.dropKey?.map fun scanner =>
      { scanner with
        openKey := some {
          required := !scanner.inFlow && scanner.indent == scanner.cursor.column
          position := scanner.tokens.length
          index := scanner.cursor.index
          line := scanner.cursor.line
          column := scanner.cursor.column } }
  else some scanner

/-- A key that still may be completed at the cursor; fails for one that must and cannot. -/
def stillOpen? (cursor : Cursor) (key : Option OpenKey) : Option (Option OpenKey) :=
  match key with
  | none => some none
  | some found =>
    if found.line < cursor.line ∨ found.index + maxKeyLength < cursor.index then
      if found.required then none else some none
    else some key

/-- Gives up the keys that are out of reach. -/
def dropFarKeys? (scanner : Scanner) : Option Scanner := do
  let openKey ← stillOpen? scanner.cursor scanner.openKey
  let outerKeys ← scanner.outerKeys.mapM (stillOpen? scanner.cursor)
  some { scanner with openKey, outerKeys }

/-! ## Single tokens -/

/-- Moves over blanks, comments and line breaks. After a line break a key may start, outside of
flow collections; a tab does not indent what could be a key. A line may start with a byte order
mark. -/
def skipSpace : Nat → Scanner → Scanner
  | 0, scanner => scanner
  | fuel + 1, scanner =>
    let start :=
      if scanner.cursor.column == 0 && scanner.cursor.rest.head? == some (Char.ofNat 0xFEFF) then
        scanner.cursor.advance 1
      else scanner.cursor
    let tabs := scanner.inFlow || !scanner.keyAllowed
    let cursor := (start.skipWhile fun c => c == ' ' || (tabs && c == '\t')).skipComment
    if startsWithBreak cursor.rest then
      skipSpace fuel
        { scanner with
          cursor := cursor.takeBreak.2
          keyAllowed := scanner.keyAllowed || !scanner.inFlow }
    else { scanner with cursor }

/-- Ends all blocks and keys before a directive or a mark between documents. -/
def endDocument? (scanner : Scanner) : Option Scanner :=
  (scanner.closeBlocks (-1)).dropKey?.map fun scanner => { scanner with keyAllowed := false }

def startFlow? (scanner : Scanner) (token : Token) : Option Scanner :=
  scanner.openKey?.map fun scanner =>
    { scanner.take 1 token with
      keyAllowed := true
      openKey := none
      outerKeys := scanner.openKey :: scanner.outerKeys }

def endFlow? (scanner : Scanner) (token : Token) : Option Scanner :=
  scanner.dropKey?.map fun scanner =>
    let scanner := { scanner.take 1 token with keyAllowed := false }
    match scanner.outerKeys with
    | [] => scanner
    | key :: rest => { scanner with openKey := key, outerKeys := rest }

def flowEntry? (scanner : Scanner) : Option Scanner :=
  scanner.dropKey?.map fun scanner => { scanner.take 1 .flowEntry with keyAllowed := true }

def blockEntry? (scanner : Scanner) : Option Scanner :=
  if !scanner.inFlow && !scanner.keyAllowed then none
  else
    (scanner.openBlockHere .blockListStart).dropKey?.map fun scanner =>
      { scanner.take 1 .blockEntry with keyAllowed := true }

/-- A key with its mark. -/
def markedKey? (scanner : Scanner) : Option Scanner :=
  if !scanner.inFlow && !scanner.keyAllowed then none
  else
    (scanner.openBlockHere .blockRecordStart).dropKey?.map fun scanner =>
      { scanner.take 1 .key with keyAllowed := !scanner.inFlow }

/-- The mark of a value, which makes an open key a key. -/
def value? (scanner : Scanner) : Option Scanner :=
  match scanner.openKey with
  | some key =>
    let marked := scanner.insertAt key.position .key
    some {
      (marked.openBlock key.column key.position .blockRecordStart).take 1 .value with
      openKey := none
      keyAllowed := false }
  | none =>
    if !scanner.inFlow && !scanner.keyAllowed then none
    else
      some {
        (scanner.openBlockHere .blockRecordStart).take 1 .value with
        keyAllowed := !scanner.inFlow }

/-- A token that may be a key. -/
def keyToken? (scanner : Scanner) (read : Cursor → Option (Token × Cursor)) : Option Scanner := do
  let scanner ← scanner.openKey?
  let (token, cursor) ← read scanner.cursor
  some { scanner.push token with cursor, keyAllowed := false }

def anchor? (scanner : Scanner) (token : String → Token) : Option Scanner :=
  scanner.keyToken? fun cursor => do
    let (name, rest) ← anchorName? (cursor.rest.drop 1)
    some (token name, cursor.moveTo rest)

def quotedScalar? (scanner : Scanner) (quote : Char) (style : ScalarStyle) : Option Scanner :=
  scanner.keyToken? fun cursor => do
    let (text, after) ← quoted? quote (cursor.rest.length + 1) (cursor.advance 1)
    some (.scalar (String.ofList text) style, after)

def plainScalar? (scanner : Scanner) : Option Scanner := do
  let scanner ← scanner.openKey?
  let cursor := scanner.cursor
  let (text, broken, after) ←
    plainWords? scanner.inFlow (scanner.indent + 1).toNat (cursor.rest.length + 1) {} cursor
  some {
    scanner.push (.scalar (String.ofList text) .plain) with
    cursor := after
    keyAllowed := broken }

def blockScalar? (scanner : Scanner) (style : ScalarStyle) : Option Scanner := do
  let scanner ← scanner.dropKey?
  let (text, after) ← block? (style == .folded) scanner.indent (scanner.cursor.advance 1)
  some {
    scanner.push (.scalar (String.ofList text) style) with
    cursor := after
    keyAllowed := true }

def directiveToken? (scanner : Scanner) : Option Scanner := do
  let scanner ← scanner.endDocument?
  let (found, cursor) ← directive? (scanner.cursor.advance 1)
  some { scanner.push (.directive found) with cursor }

/-- Characters that start something else than a plain scalar. -/
def isIndicator (c : Char) : Bool :=
  ['-', '?', ':', ',', '[', ']', '{', '}', '#', '&', '*', '!', '|', '>', '\'', '"', '%', '@',
    '`'].contains c

/-- Reads the token that starts with `c`, which `rest` follows. -/
def token? (scanner : Scanner) (c : Char) (rest : List Char) : Option Scanner :=
  let inFlow := scanner.inFlow
  let ends := isWordEnd rest
  if scanner.cursor.column == 0 && c == '%' then scanner.directiveToken?
  else if scanner.cursor.atMark '-' then scanner.endDocument?.map (·.take 3 .documentStart)
  else if scanner.cursor.atMark '.' then scanner.endDocument?.map (·.take 3 .documentEnd)
  else if c == '[' then scanner.startFlow? .flowListStart
  else if c == '{' then scanner.startFlow? .flowRecordStart
  else if c == ']' then scanner.endFlow? .flowListEnd
  else if c == '}' then scanner.endFlow? .flowRecordEnd
  else if c == ',' then scanner.flowEntry?
  else if c == '-' && ends then scanner.blockEntry?
  else if c == '?' && (inFlow || ends) then scanner.markedKey?
  else if c == ':' && (inFlow || ends) then scanner.value?
  else if c == '*' then scanner.anchor? .alias
  else if c == '&' then scanner.anchor? .anchor
  else if c == '!' then
    scanner.keyToken? fun cursor =>
      (tag? inFlow cursor.rest).map fun (tag, rest) => (.tag tag, cursor.moveTo rest)
  else if c == '|' && !inFlow then scanner.blockScalar? .literal
  else if c == '>' && !inFlow then scanner.blockScalar? .folded
  else if c == '\'' then scanner.quotedScalar? '\'' .singleQuoted
  else if c == '"' then scanner.quotedScalar? '"' .doubleQuoted
  else if (!isIndicator c && !isBlank c) || (c == '-' && !startsWithBlank rest) ||
      (!inFlow && (c == '?' || c == ':') && !ends) then
    scanner.plainScalar?
  else none

/-- Reads all tokens. Each token takes at least one character, so the length of the text is enough
fuel. -/
def tokens? : Nat → Scanner → Option (List Token)
  | 0, _ => none
  | fuel + 1, scanner => do
    let scanner ← (scanner.skipSpace (scanner.cursor.rest.length + 1)).dropFarKeys?
    let scanner := scanner.closeBlocks scanner.cursor.column
    match scanner.cursor.rest with
    | [] => (← scanner.endDocument?).tokens.reverse
    | c :: rest => tokens? fuel (← scanner.token? c rest)

end Scanner

namespace Token

/-- The tokens of a text. -/
def ofText? (text : List Char) : Option (List Token) :=
  if text.all isAllowed then Scanner.tokens? (text.length + 1) { cursor := { rest := text } }
  else none

end Token

end AnswerGraph.Yaml
