import AnswerGraph.Text.Hex
import AnswerGraph.Yaml.Cursor

/-!
What may stand before a node: its anchor and its tag, and the directives before a document. All of
them are parts of one line.
-/

namespace AnswerGraph.Yaml

/-- A text before which the name of an anchor ends. -/
def isAnchorEnd (text : List Char) : Bool :=
  isWordEnd text || text.head?.any ['?', ':', ',', ']', '}', '%', '@', '`'].contains

/-- The name of an anchor, after its indicator. -/
def anchorName? (text : List Char) : Option (String × List Char) :=
  let (name, rest) := text.span isNameChar
  if name.isEmpty || !isAnchorEnd rest then none else some (String.ofList name, rest)

/-! ## Tags -/

/-- A tag: a handle that stands for the start of the tag, and the rest of it. -/
structure Tag where
  handle : String
  suffix : String
  deriving DecidableEq, Repr

/-- The handle `!name!`, or `!name` if no second mark follows. -/
def tagHandle? : List Char → Option (List Char × List Char)
  | '!' :: rest =>
    let (name, rest) := rest.span isNameChar
    match rest with
    | '!' :: rest => some ('!' :: name ++ ['!'], rest)
    | _ => some ('!' :: name, rest)
  | _ => none

def isUriChar (c : Char) : Bool :=
  isNameChar c ||
    [';', '/', '?', ':', '@', '&', '=', '+', '$', '.', '!', '~', '*', '\'', '(', ')'].contains c

/-- The octet of an escape `%XX`. -/
def octet? : List Char → Option (Nat × List Char)
  | '%' :: high :: low :: rest => (Text.hexNumber? [high, low]).map (·, rest)
  | _ => none

/-- The octets that continue a character. -/
def continuation? (value : Nat) : Nat → List Char → Option (Nat × List Char)
  | 0, text => some (value, text)
  | count + 1, text => do
    let (octet, rest) ← octet? text
    if octet / 64 = 2 then continuation? (value * 64 + octet % 64) count rest else none

/-- The character of a run of escapes. -/
def escapedOctets? (text : List Char) : Option (Char × List Char) := do
  let (first, rest) ← octet? text
  let (start, count) ←
    if first < 0x80 then some (first, 0)
    else if first / 32 = 6 then some (first % 32, 1)
    else if first / 16 = 14 then some (first % 16, 2)
    else if first / 8 = 30 then some (first % 8, 3)
    else none
  let (value, rest) ← continuation? start count rest
  some (Char.ofNat value, rest)

/-- The characters of a tag; `verbatim` ones may include indicators of flow collections. -/
def uri? (verbatim : Bool) : Nat → List Char → Option (List Char × List Char)
  | 0, _ => none
  | fuel + 1, text =>
    match text with
    | [] => some ([], [])
    | c :: rest =>
      if c == '%' then do
        let (value, rest) ← escapedOctets? text
        (uri? verbatim fuel rest).map fun (uri, after) => (value :: uri, after)
      else if isUriChar c || (verbatim && [',', '[', ']'].contains c) then
        (uri? verbatim fuel rest).map fun (uri, after) => (c :: uri, after)
      else some ([], text)

/-- A tag that is not empty. -/
def fullUri? (verbatim : Bool) (text : List Char) : Option (List Char × List Char) := do
  let (uri, rest) ← uri? verbatim (text.length + 1) text
  if uri.isEmpty then none else some (uri, rest)

/-- A tag, from its mark on. -/
def tag? (inFlow : Bool) (text : List Char) : Option (Tag × List Char) := do
  let (tag, rest) ←
    match text with
    | '!' :: '<' :: rest =>
      match fullUri? true rest with
      | some (uri, '>' :: rest) => some (Tag.mk "" (String.ofList uri), rest)
      | _ => none
    | _ => do
      let (handle, rest) ← tagHandle? text
      if 1 < handle.length ∧ handle.getLast? = some '!' then
        let (uri, rest) ← fullUri? false rest
        some (Tag.mk (String.ofList handle) (String.ofList uri), rest)
      else
        let (uri, rest) ← uri? false (rest.length + 1) rest
        let suffix := handle.tail ++ uri
        some (if suffix.isEmpty then ⟨"", "!"⟩ else ⟨"!", String.ofList suffix⟩, rest)
  if isWordEnd rest || (inFlow && rest.head? == some ',') then some (tag, rest) else none

/-! ## Directives -/

inductive Directive where
  | version (major minor : Nat)
  /-- A handle and what it stands for. -/
  | handle (handle start : String)
  deriving DecidableEq, Repr

/-- The longest number of a version. -/
def maxVersionDigits : Nat := 9

def versionNumber? (text : List Char) : Option (Nat × List Char) :=
  let (digits, rest) := text.span Char.isDigit
  if digits.isEmpty || maxVersionDigits < digits.length then none
  else some (digits.foldl (fun value digit => value * 10 + (digit.toNat - 48)) 0, rest)

def version? (text : List Char) : Option (Directive × List Char) := do
  let (major, rest) ← versionNumber? (text.dropWhile isBlank)
  match rest with
  | '.' :: rest =>
    let (minor, rest) ← versionNumber? rest
    some (.version major minor, rest)
  | _ => none

def handle? (text : List Char) : Option (Directive × List Char) := do
  let (handle, rest) ← tagHandle? (text.dropWhile isBlank)
  if (1 < handle.length && handle.getLast? != some '!') || !startsWithBlank rest then none
  else
    let (uri, rest) ← fullUri? true (rest.dropWhile isBlank)
    if isWordEnd rest then some (.handle (String.ofList handle) (String.ofList uri), rest) else none

/-- A directive, after its indicator and up to the end of its line. -/
def directive? (cursor : Cursor) : Option (Directive × Cursor) := do
  let (name, rest) := cursor.rest.span isNameChar
  if !isWordEnd rest then none
  else
    let (found, rest) ←
      match String.ofList name with
      | "YAML" => version? rest
      | "TAG" => handle? rest
      | _ => none
    let cursor := (cursor.moveTo rest).skipBlanks.skipComment
    if isLineEnd cursor.rest then some (found, cursor.takeBreak.2) else none

end AnswerGraph.Yaml
