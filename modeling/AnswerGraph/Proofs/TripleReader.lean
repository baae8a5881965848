import AnswerGraph.Rdf.Check
import AnswerGraph.Text.Hex

/-!
Reading triples from text. IRIs and plain literals are written alike in N-Triples and in Turtle, so
both are first read as tokens. N-Triples has one triple a line; in Turtle a comma repeats subject
and predicate of the triple before, and a semicolon its subject.
-/

namespace AnswerGraph

namespace Rdf

/-! ## Terms -/

/-- The character of a code in hexadecimal digits. -/
def charOf? (digits : List Char) : Option Char := do
  let code ← Text.hexNumber? digits
  if code.isValidChar then some (Char.ofNat code) else none

/-- Puts a character before what was read, if both could be read. -/
def consRead (first : Option Char) (more : Option (List Char × List Char)) :
    Option (List Char × List Char) := do
  let (value, after) ← more
  some ((← first) :: value, after)

/-- The characters up to a closing mark, and what follows the mark. A character stands for itself if
it is `plain`; others are written by their codes, or by a letter that is `short?` for them. -/
def readUntil? (closing : Char) (plain : Char → Bool) (short? : Char → Option Char) :
    List Char → Option (List Char × List Char)
  | [] => none
  | '\\' :: 'u' :: a :: b :: c :: d :: rest =>
    consRead (charOf? [a, b, c, d]) (readUntil? closing plain short? rest)
  | '\\' :: 'U' :: a :: b :: c :: d :: e :: f :: g :: h :: rest =>
    consRead (charOf? [a, b, c, d, e, f, g, h]) (readUntil? closing plain short? rest)
  | '\\' :: letter :: rest => consRead (short? letter) (readUntil? closing plain short? rest)
  | first :: rest =>
    if first = closing then some ([], rest)
    else if plain first then consRead (some first) (readUntil? closing plain short? rest)
    else none

/-- A character that stands for itself in an IRI. -/
def isIriChar (c : Char) : Bool :=
  32 < c.toNat && !"<>\"\x7b\x7d|^`\\".toList.contains c

def isLineEnd (c : Char) : Bool := c == '\n' || c == '\r'

/-- A character that stands for itself in a literal. -/
def isLiteralChar (c : Char) : Bool :=
  c != '"' && c != '\\' && !isLineEnd c

/-- The character that a letter stands for after a backslash in a literal. -/
def shortEscape? (letter : Char) : Option Char :=
  if letter = 't' then some '\t'
  else if letter = 'b' then some (Char.ofNat 8)
  else if letter = 'n' then some '\n'
  else if letter = 'r' then some '\r'
  else if letter = 'f' then some (Char.ofNat 12)
  else if letter = '"' ∨ letter = Char.ofNat 39 ∨ letter = '\\' then some letter
  else none

theorem exists_of_consRead {first : Option Char} {more : Option (List Char × List Char)}
    {value after : List Char} (read : consRead first more = some (value, after)) :
    ∃ inner, more = some (inner, after) := by
  obtain ⟨⟨inner, rest⟩, found, last⟩ := Option.bind_eq_some_iff.mp read
  obtain ⟨c, _, same⟩ := Option.bind_eq_some_iff.mp last
  cases same
  exact ⟨inner, found⟩

theorem length_of_readUntil? {closing : Char} {plain : Char → Bool} {short? : Char → Option Char}
    {text value after : List Char}
    (read : readUntil? closing plain short? text = some (value, after)) :
    after.length < text.length := by
  fun_induction readUntil? closing plain short? text generalizing value with
  | case1 => cases read
  | case5 rest =>
    cases read
    simp
  | case7 => cases read
  | _ =>
    obtain ⟨inner, more⟩ := exists_of_consRead read
    rename_i ih
    have := ih more
    simp only [List.length_cons]
    omega

/-! ## Tokens -/

inductive Token where
  | term (term : Term)
  | comma
  | semicolon
  | point
  deriving DecidableEq, Repr

/-- The token that starts with a character, and what follows it. -/
def nextToken? (first : Char) (rest : List Char) : Option (Token × List Char) :=
  match first with
  | '<' => (readUntil? '>' isIriChar (fun _ => none) rest).map fun (value, after) =>
    (.term (.iri (String.ofList value)), after)
  | '"' => (readUntil? '"' isLiteralChar shortEscape? rest).map fun (value, after) =>
    (.term (.literal (String.ofList value)), after)
  | ',' => some (.comma, rest)
  | ';' => some (.semicolon, rest)
  | '.' => some (.point, rest)
  | _ => none

theorem length_of_nextToken? {first : Char} {rest after : List Char} {token : Token}
    (read : nextToken? first rest = some (token, after)) : after.length ≤ rest.length := by
  unfold nextToken? at read
  split at read
  · obtain ⟨⟨value, behind⟩, found, same⟩ := Option.map_eq_some_iff.mp read
    cases same
    exact Nat.le_of_lt (length_of_readUntil? found)
  · obtain ⟨⟨value, behind⟩, found, same⟩ := Option.map_eq_some_iff.mp read
    cases same
    exact Nat.le_of_lt (length_of_readUntil? found)
  all_goals cases read
  all_goals exact Nat.le_refl _

def isBlank (c : Char) : Bool := c == ' ' || c == '\t' || isLineEnd c

/-- The tokens of a text. Blanks may stand between them, and comments, which end with their line. -/
def tokens? (text : List Char) : Option (List Token) :=
  match text with
  | [] => some []
  | first :: rest =>
    if isBlank first then tokens? rest
    else if first = '#' then tokens? (rest.dropWhile (!isLineEnd ·))
    else
      match found : nextToken? first rest with
      | none => none
      | some (token, after) =>
        have := length_of_nextToken? found
        (tokens? after).map (token :: ·)
termination_by text.length
decreasing_by
  · simp
  · exact Nat.lt_succ_of_le (List.dropWhile_suffix _).length_le
  · exact Nat.lt_succ_of_le this

end Rdf

namespace NTriples

open Rdf

/-- The triples of a line: one, or none in a line without tokens. -/
def ofTokens? : List Token → Option (List Triple)
  | [] => some []
  | [.term (.iri subject), .term (.iri predicate), .term object, .point] =>
    some [⟨.iri subject, .iri predicate, object⟩]
  | _ => none

/-- The triples of a text, line by line. -/
def read? (text : List Char) : Option (List Triple) :=
  ((text.splitOnP isLineEnd).mapM fun line => (tokens? line).bind ofTokens?).map List.flatten

end NTriples

namespace Turtle

open Rdf

/-- What was read of a statement. -/
inductive Progress where
  | nothing
  | subject (subject : Term)
  | predicate (subject predicate : Term)
  | object (subject predicate : Term)
  /-- A semicolon: another predicate may follow, or not. -/
  | semicolon (subject : Term)

/-- The triples that are still to be read. -/
def ofTokens? : Progress → List Token → Option (List Triple)
  | .nothing, [] => some []
  | .nothing, .term (.iri subject) :: rest => ofTokens? (.subject (.iri subject)) rest
  | .subject subject, .term (.iri predicate) :: rest =>
    ofTokens? (.predicate subject (.iri predicate)) rest
  | .predicate subject predicate, .term object :: rest =>
    (ofTokens? (.object subject predicate) rest).map (⟨subject, predicate, object⟩ :: ·)
  | .object subject predicate, .comma :: rest => ofTokens? (.predicate subject predicate) rest
  | .object subject _, .semicolon :: rest => ofTokens? (.semicolon subject) rest
  | .object _ _, .point :: rest => ofTokens? .nothing rest
  | .semicolon subject, .semicolon :: rest => ofTokens? (.semicolon subject) rest
  | .semicolon subject, .term (.iri predicate) :: rest =>
    ofTokens? (.predicate subject (.iri predicate)) rest
  | .semicolon _, .point :: rest => ofTokens? .nothing rest
  | _, _ => none

/-- The triples of a text that goes on after what was read. -/
def readFrom? (progress : Progress) (text : List Char) : Option (List Triple) :=
  (tokens? text).bind (ofTokens? progress)

/-- The triples of a text. -/
def read? (text : List Char) : Option (List Triple) :=
  readFrom? .nothing text

end Turtle

end AnswerGraph
