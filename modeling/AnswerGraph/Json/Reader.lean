import AnswerGraph.Document
import AnswerGraph.Text.Hex

/-!
Reading JSON text. A text is first read as a document, in which a literal without a value (a number
too large, half of a surrogate pair) is kept as a scalar without readings, so that it harms only
those who look at it. A JSON value needs all of its document, nested to a limited depth.
-/

namespace AnswerGraph

namespace Json

def isSpace (c : Char) : Bool :=
  c == ' ' || c == '\n' || c == '\t' || c == '\r'

def skipSpace (text : List Char) : List Char :=
  text.dropWhile isSpace

/-! ## Strings -/

/-- A piece of a string: a character as it stands, or a unit of 16 bits from an escape. -/
inductive Piece where
  | char (c : Char)
  | unit (value : Nat)

/-- The character that a short escape stands for. -/
def shortEscape? (c : Char) : Option Char :=
  if c = '"' ∨ c = '\\' ∨ c = '/' then some c
  else if c = 'b' then some (Char.ofNat 8)
  else if c = 'f' then some (Char.ofNat 12)
  else if c = 'n' then some '\n'
  else if c = 'r' then some '\r'
  else if c = 't' then some '\t'
  else none

/-- The pieces of a string after its opening quote, and what follows the closing one. -/
def pieces? : List Char → Option (List Piece × List Char)
  | [] => none
  | '"' :: rest => some ([], rest)
  | '\\' :: 'u' :: a :: b :: c :: d :: rest => do
    let value ← Text.hexNumber? [a, b, c, d]
    let (more, after) ← pieces? rest
    some (.unit value :: more, after)
  | '\\' :: c :: rest => do
    let value ← shortEscape? c
    let (more, after) ← pieces? rest
    some (.char value :: more, after)
  | c :: rest =>
    if c.toNat < 32 ∨ c = '\\' then none
    else do
      let (more, after) ← pieces? rest
      some (.char c :: more, after)

/-- Joins surrogate pairs; there is no text if half of a pair stands alone. -/
def joinPieces? : List Piece → Option (List Char)
  | [] => some []
  | .char c :: rest => (joinPieces? rest).map (c :: ·)
  | .unit high :: .unit low :: rest =>
    if 0xD800 ≤ high ∧ high < 0xDC00 ∧ 0xDC00 ≤ low ∧ low < 0xE000 then
      (joinPieces? rest).map (Char.ofNat (0x10000 + (high - 0xD800) * 0x400 + (low - 0xDC00)) :: ·)
    else if 0xD800 ≤ high ∧ high < 0xE000 then none
    else (joinPieces? (.unit low :: rest)).map (Char.ofNat high :: ·)
  | .unit value :: rest =>
    if 0xD800 ≤ value ∧ value < 0xE000 then none
    else (joinPieces? rest).map (Char.ofNat value :: ·)

/-- The text of a string, if it has one, and what follows the string. -/
def readString? (text : List Char) : Option (Option String × List Char) := do
  let (found, rest) ← pieces? text
  some ((joinPieces? found).map String.ofList, rest)

/-! ## Numbers -/

/-- Appends digits to a number as long as it stays within 64 bits. Returns the digits left over. -/
def appendDigits (value : Nat) : List Char → Nat × List Char
  | [] => (value, [])
  | digit :: rest =>
    let longer := value * 10 + (digit.toNat - 48)
    if JsonNumber.maxNatural < longer then (value, digit :: rest)
    else appendDigits longer rest

def naturalOf (digits : List Char) : Nat :=
  digits.foldl (fun value digit => value * 10 + (digit.toNat - 48)) 0

/-- The parts of a number as it is written. -/
structure Numeral where
  negative : Bool
  whole : List Char
  /-- Digits after the point. -/
  places : Option (List Char)
  /-- Sign and digits of the power of ten. -/
  power : Option (Bool × List Char)

/-- The value of a numeral. Whole numbers of 64 bits are exact; of longer ones the digits beyond 64
bits count only as powers of ten. -/
def Numeral.value? (numeral : Numeral) : Option JsonNumber :=
  let (digits, extra) := appendDigits 0 numeral.whole
  match numeral.places, numeral.power, extra with
  | none, none, [] =>
    if !numeral.negative then some (.natural digits)
    else if 0 < digits ∧ digits ≤ JsonNumber.maxNegative then some (.negative digits)
    else (Binary64.ofNat? true digits).map .real
  | places, power, extra =>
    let places := places.getD []
    let (digits, unread) := appendDigits digits places
    let exponent : Int := (extra.length : Int) - (places.length - unread.length : Nat)
    let shift : Int :=
      match power with
      | none => 0
      | some (negative, powerDigits) =>
        if negative then -(naturalOf powerDigits) else naturalOf powerDigits
    (Binary64.ofDecimal? numeral.negative digits (exponent + shift)).map .real

/-- Digits at the start of a text: at least one. -/
def takeDigits? (text : List Char) : Option (List Char × List Char) :=
  match text.span Char.isDigit with
  | ([], _) => none
  | (digits, rest) => some (digits, rest)

/-- The digits before the point; they start with a zero only if that is all. -/
def takeWhole? (text : List Char) : Option (List Char × List Char) := do
  let (digits, rest) ← takeDigits? text
  match digits with
  | '0' :: _ :: _ => none
  | _ => some (digits, rest)

def takePlaces? : List Char → Option (Option (List Char) × List Char)
  | '.' :: rest => (takeDigits? rest).map fun (digits, after) => (some digits, after)
  | rest => some (none, rest)

def takePower? : List Char → Option (Option (Bool × List Char) × List Char)
  | [] => some (none, [])
  | c :: rest =>
    if c = 'e' ∨ c = 'E' then
      let (negative, digitsFrom) :=
        match rest with
        | '+' :: after => (false, after)
        | '-' :: after => (true, after)
        | _ => (false, rest)
      (takeDigits? digitsFrom).map fun (digits, after) => (some (negative, digits), after)
    else some (none, c :: rest)

def readNumeral? (text : List Char) : Option (Numeral × List Char) := do
  let (negative, text) :=
    match text with
    | '-' :: rest => (true, rest)
    | _ => (false, text)
  let (whole, text) ← takeWhole? text
  let (places, text) ← takePlaces? text
  let (power, text) ← takePower? text
  some (⟨negative, whole, places, power⟩, text)

/-! ## Documents -/

def nullScalar : Document := .scalar { null := true }

def flagScalar (value : Bool) : Document := .scalar { flag := some value }

def numberScalar (value : Option JsonNumber) : Document := .scalar { number := value }

/-- A text also names a choice. -/
def textScalar (text : Option String) : Document := .scalar { text, choice := text }

/-- A record of one null member stands for the choice of that name. -/
def recordOf (members : List (Option String × Document)) : Document :=
  match members with
  | [(name, value)] => .record (if value.isNull then name else none) members
  | _ => .record none members

/-- What follows `word`, which stands for `document`. -/
def readWord? (word : String) (document : Document) (text : List Char) :
    Option (Document × List Char) :=
  let letters := word.toList
  if text.take letters.length = letters then some (document, text.drop letters.length) else none

mutual

/-- Reads the document at the start of a text. `fuel` bounds the recursion; twice the length of the
text is enough. -/
def readValue? (fuel : Nat) (text : List Char) : Option (Document × List Char) :=
  match fuel with
  | 0 => none
  | fuel + 1 =>
    match skipSpace text with
    | [] => none
    | 'n' :: rest => readWord? "ull" nullScalar rest
    | 't' :: rest => readWord? "rue" (flagScalar true) rest
    | 'f' :: rest => readWord? "alse" (flagScalar false) rest
    | '"' :: rest => (readString? rest).map fun (text, after) => (textScalar text, after)
    | '[' :: rest =>
      match skipSpace rest with
      | ']' :: after => some (.list true [], after)
      | _ => (readItems? fuel rest).map fun (items, after) => (.list true items, after)
    | '{' :: rest =>
      match skipSpace rest with
      | '}' :: after => some (.record none [], after)
      | _ => (readMembers? fuel rest).map fun (members, after) => (recordOf members, after)
    | other => (readNumeral? other).map fun (numeral, after) => (numberScalar numeral.value?, after)

/-- Reads items up to the end of their list. -/
def readItems? (fuel : Nat) (text : List Char) : Option (List Document × List Char) :=
  match fuel with
  | 0 => none
  | fuel + 1 => do
    let (item, rest) ← readValue? fuel text
    match skipSpace rest with
    | ',' :: rest => (readItems? fuel rest).map fun (items, after) => (item :: items, after)
    | ']' :: rest => some ([item], rest)
    | _ => none

/-- Reads members up to the end of their record. -/
def readMembers? (fuel : Nat) (text : List Char) :
    Option (List (Option String × Document) × List Char) :=
  match fuel with
  | 0 => none
  | fuel + 1 =>
    match skipSpace text with
    | '"' :: rest => do
      let (name, rest) ← readString? rest
      match skipSpace rest with
      | ':' :: rest =>
        let (value, rest) ← readValue? fuel rest
        match skipSpace rest with
        | ',' :: rest =>
          (readMembers? fuel rest).map fun (members, after) => ((name, value) :: members, after)
        | '}' :: rest => some ([(name, value)], rest)
        | _ => none
      | _ => none
    | _ => none

end

end Json

namespace Document

/-- The document that a JSON text holds. -/
def ofJson? (text : String) : Option Document := do
  let letters := text.toList
  let (document, rest) ← Json.readValue? (2 * letters.length + 2) letters
  if (Json.skipSpace rest).isEmpty then some document else none

/-- The JSON value of a scalar. -/
def Scalar.toJson? (value : Scalar) : Option Json :=
  if value.null then some .null
  else
    match value.flag, value.number, value.text with
    | some flag, _, _ => some (.bool flag)
    | none, some number, _ => some (.number number)
    | none, none, some text => some (.string text)
    | none, none, none => none

mutual

/-- The JSON value of a document in which lists and records are nested at most `depth` times. -/
def toJson? (depth : Nat) : Document → Option Json
  | .scalar value => Scalar.toJson? value
  | .list _ items =>
    match depth with
    | 0 => none
    | depth + 1 => (itemsToJson? depth items).map .array
  | .record _ members =>
    match depth with
    | 0 => none
    | depth + 1 => (membersToJson? depth members).map Json.ofMembers

def itemsToJson? (depth : Nat) : List Document → Option (List Json)
  | [] => some []
  | item :: items => do some ((← toJson? depth item) :: (← itemsToJson? depth items))

def membersToJson? (depth : Nat) : List (Option String × Document) → Option (List (String × Json))
  | [] => some []
  | (name, value) :: members => do
    some ((← name, ← toJson? depth value) :: (← membersToJson? depth members))

end

/-- The depth to which JSON values may be nested. -/
def maxDepth : Nat := 127

end Document

namespace Json

/-- The JSON value that a text holds. -/
def parse? (text : String) : Option Json :=
  (Document.ofJson? text).bind (Document.toJson? Document.maxDepth)

mutual

/-- A JSON value as a document. -/
def toDocument : Json → Document
  | .null => nullScalar
  | .bool value => flagScalar value
  | .number value => numberScalar (some value)
  | .string value => textScalar (some value)
  | .array items => .list true (itemsToDocument items)
  | .object members => recordOf (membersToDocument members)

def itemsToDocument : List Json → List Document
  | [] => []
  | item :: items => toDocument item :: itemsToDocument items

def membersToDocument : List (String × Json) → List (Option String × Document)
  | [] => []
  | (name, value) :: members => (some name, toDocument value) :: membersToDocument members

end

end Json

end AnswerGraph
