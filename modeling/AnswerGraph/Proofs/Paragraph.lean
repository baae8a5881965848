import AnswerGraph.Graph.Basic
import AnswerGraph.Pattern.PatternSet
import AnswerGraph.Proofs.Faults

/-!
Pattern texts by paragraphs. Here a text is not read line by line: it is cut into paragraphs, a
paragraph is cut at its first condition line, and faults and compiled blocks are listed for whole
paragraphs. Only the cuts inside one line are those of the reader.
-/

namespace AnswerGraph

/-- Lines with their numbers, which start with `number`. -/
def numberedFrom (number : Nat) (lines : List (List Char)) : List (Nat × List Char) :=
  (lines.zipIdx number).map Prod.swap

theorem numberedFrom_cons (number : Nat) (line : List Char) (rest : List (List Char)) :
    numberedFrom number (line :: rest) = (number, line) :: numberedFrom (number + 1) rest := rfl

theorem numberedFrom_append (number : Nat) (some more : List (List Char)) :
    numberedFrom number (some ++ more) =
      numberedFrom number some ++ numberedFrom (number + some.length) more := by
  rw [numberedFrom, List.zipIdx_append, List.map_append]
  rfl

theorem map_snd_numberedFrom (number : Nat) (lines : List (List Char)) :
    (numberedFrom number lines).map Prod.snd = lines := by
  induction lines generalizing number with
  | nil => rfl
  | cons line rest ih => rw [numberedFrom_cons, List.map_cons, ih]

theorem mem_of_mem_numberedFrom {number : Nat} {lines : List (List Char)} {line : Nat × List Char}
    (member : line ∈ numberedFrom number lines) : line.2 ∈ lines := by
  rw [← map_snd_numberedFrom number lines]
  exact List.mem_map_of_mem member

def isBlankLine (line : Nat × List Char) : Bool := Text.isAllBlank line.2

def opensBlock (line : Nat × List Char) : Bool := Condition.opens line.2

/-- Whether a line has the word that starts the declarations of its paragraph. -/
def startsDeclarations (line : Nat × List Char) : Bool :=
  Text.contains "NAMESPACE".toList line.2

/-- A maximal run of lines that are not blank. -/
structure Paragraph where
  lines : List (Nat × List Char)
  /-- Whether a blank line follows. -/
  closed : Bool
  deriving DecidableEq, Repr

/-- A declaration with the line that it stands on. -/
structure PlacedDeclaration where
  line : Nat
  namePrefix : String
  root : String
  deriving DecidableEq, Repr

namespace PlacedDeclaration

def ofLine? (line : Nat × List Char) : Option PlacedDeclaration :=
  (Declaration.ofLine? line.2).map fun found =>
    ⟨line.1, String.ofList found.namePrefix, String.ofList found.root⟩

def entry (declaration : PlacedDeclaration) : String × String :=
  (declaration.namePrefix, declaration.root)

end PlacedDeclaration

namespace Paragraph

/-- The paragraphs of some lines. -/
def ofLines (lines : List (Nat × List Char)) : List Paragraph :=
  match cut : lines.dropWhile isBlankLine with
  | [] => []
  | first :: rest =>
    have : (rest.dropWhile fun line => !isBlankLine line).length < lines.length := by
      have skipped := (List.dropWhile_sublist (l := lines) isBlankLine).length_le
      have left := (List.dropWhile_sublist (l := rest) fun line => !isBlankLine line).length_le
      rw [cut, List.length_cons] at skipped
      omega
    let after := rest.dropWhile fun line => !isBlankLine line
    { lines := first :: rest.takeWhile fun line => !isBlankLine line
      closed := !after.isEmpty } :: ofLines after
termination_by lines.length

theorem ofLines_eq_nil {lines : List (Nat × List Char)} (cut : lines.dropWhile isBlankLine = []) :
    ofLines lines = [] := by
  rw [ofLines]
  split
  · rfl
  · next found => simp [found] at cut

theorem ofLines_eq_cons {lines rest : List (Nat × List Char)} {first : Nat × List Char}
    (cut : lines.dropWhile isBlankLine = first :: rest) :
    ofLines lines =
      { lines := first :: rest.takeWhile fun line => !isBlankLine line
        closed := !(rest.dropWhile fun line => !isBlankLine line).isEmpty } ::
      ofLines (rest.dropWhile fun line => !isBlankLine line) := by
  rw [ofLines]
  split
  · next found => simp [found] at cut
  · next found =>
    rw [cut] at found
    obtain ⟨rfl, rfl⟩ := List.cons.inj found
    rfl

theorem ofLines_blank {blank : Nat × List Char} (isBlank : isBlankLine blank = true)
    (rest : List (Nat × List Char)) : ofLines (blank :: rest) = ofLines rest := by
  have skipped : (blank :: rest).dropWhile isBlankLine = rest.dropWhile isBlankLine :=
    List.dropWhile_cons_of_pos isBlank
  cases cut : rest.dropWhile isBlankLine with
  | nil => rw [ofLines_eq_nil cut, ofLines_eq_nil (skipped.trans cut)]
  | cons first more => rw [ofLines_eq_cons cut, ofLines_eq_cons (skipped.trans cut)]

/-- Visible lines with a blank line behind them are a closed paragraph. -/
theorem ofLines_run {run : List (Nat × List Char)} (nonempty : run ≠ [])
    (visible : ∀ line ∈ run, isBlankLine line = false) {blank : Nat × List Char}
    (isBlank : isBlankLine blank = true) (rest : List (Nat × List Char)) :
    ofLines (run ++ blank :: rest) = { lines := run, closed := true } :: ofLines rest := by
  obtain ⟨first, more, rfl⟩ := List.exists_cons_of_ne_nil nonempty
  have cut : (first :: more ++ blank :: rest).dropWhile isBlankLine =
      first :: (more ++ blank :: rest) :=
    List.dropWhile_cons_of_neg (by simp [visible first List.mem_cons_self])
  have inside : ∀ line ∈ more, (!isBlankLine line) = true := by
    intro line member
    simp [visible line (List.mem_cons_of_mem first member)]
  have taken : (more ++ blank :: rest).takeWhile (fun line => !isBlankLine line) = more := by
    rw [List.takeWhile_append_of_pos inside, List.takeWhile_cons, isBlank]
    exact List.append_nil more
  have left : (more ++ blank :: rest).dropWhile (fun line => !isBlankLine line) =
      blank :: rest := by
    rw [List.dropWhile_append_of_pos inside, List.dropWhile_cons, isBlank]
    rfl
  rw [ofLines_eq_cons cut, taken, left, ofLines_blank isBlank]
  rfl

/-- The lines before the first condition. -/
def header (paragraph : Paragraph) : List (Nat × List Char) :=
  paragraph.lines.takeWhile fun line => !opensBlock line

def condition? (paragraph : Paragraph) : Option (Nat × List Char) :=
  (paragraph.lines.dropWhile fun line => !opensBlock line).head?

/-- The lines after the first condition. -/
def body (paragraph : Paragraph) : List (Nat × List Char) :=
  (paragraph.lines.dropWhile fun line => !opensBlock line).tail

/-- The declarations of the header, from the line on that starts them. -/
def declarations (paragraph : Paragraph) : List PlacedDeclaration :=
  (paragraph.header.dropWhile fun line => !startsDeclarations line).filterMap
    PlacedDeclaration.ofLine?

/-- The block that the paragraph opens. -/
def opened? (paragraph : Paragraph) : Option RawBlock :=
  paragraph.condition?.map fun (number, line) =>
    { condition := Condition.ofLine line, line := number, body := paragraph.body }

/-- The block of the paragraph: the one that it opens, if the paragraph is closed. -/
def block? (paragraph : Paragraph) : Option RawBlock :=
  if paragraph.closed then paragraph.opened? else none

/-- Conditions without keys, and conditions inside a block. -/
def conditionFaults (paragraph : Paragraph) : List PatternError :=
  (paragraph.condition?.toList.filterMap fun (number, line) =>
      if (Condition.ofLine line).keys.isEmpty then some (.emptyCondition number) else none) ++
    paragraph.body.filterMap fun (number, line) =>
      if Condition.opens line then some (.nestedCondition number) else none

end Paragraph

/-- Declarations of prefixes that were declared before. -/
def repetitions (declared : List String) : List PlacedDeclaration → List PatternError
  | [] => []
  | declaration :: rest =>
    (if declaration.namePrefix ∈ declared then
        [.duplicateNamespace declaration.namePrefix declaration.line]
      else []) ++
      repetitions (declared ++ [declaration.namePrefix]) rest

/-- The faults of single lines in the order of the lines. -/
def lineFaults (declared : List String) : List Paragraph → List PatternError
  | [] => []
  | paragraph :: rest =>
    repetitions declared paragraph.declarations ++ paragraph.conditionFaults ++
      lineFaults (declared ++ paragraph.declarations.map PlacedDeclaration.namePrefix) rest

namespace PatternText

def paragraphs (text : String) : List Paragraph :=
  Paragraph.ofLines (numberedFrom 1 (Text.lines text.toList))

variable (base : String) (paragraphs : List Paragraph)

/-- All declarations, those after a block included. -/
def namespaces : Namespaces :=
  ⟨(paragraphs.flatMap Paragraph.declarations).map PlacedDeclaration.entry⟩

def blocks : List RawBlock := paragraphs.filterMap Paragraph.block?

/-- The variables of all blocks, each once, in the order of their first appearance. -/
def variableTable : Variables :=
  let words := ((blocks paragraphs).flatMap RawBlock.body).flatMap fun line => Text.words line.2
  { base, names := firsts ((words.filterMap variableName?).map String.ofList) }

/-- What a token on a line is compiled to. -/
def compileToken (number : Nat) (token : List Char) : Except PatternError Component :=
  Component.ofToken token number (namespaces paragraphs) (variableTable base paragraphs)

/-- The compiled line, if the line has a token. -/
def compiledLine? (line : Nat × List Char) : Option StatementPattern :=
  match (StatementPattern.tokens line.2).filterMap fun token =>
      (compileToken base paragraphs line.1 token).toOption with
  | [] => none
  | components => some ⟨components⟩

/-- Roots that overlap the base of the variables. -/
def rootFaults : List PatternError :=
  (namespaces paragraphs).entries.filterMap fun (namePrefix, root) =>
    if PatternSet.overlaps root base then some (.namespaceCollision namePrefix root base) else none

/-- Tokens of the blocks whose prefix or variable is unknown. -/
def tokenFaults : List PatternError :=
  ((blocks paragraphs).flatMap RawBlock.body).flatMap fun (number, line) =>
    (StatementPattern.tokens line).filterMap fun token =>
      fault? (compileToken base paragraphs number token)

/-- All faults, in the order in which they are looked for. -/
def faults : List PatternError :=
  lineFaults [] paragraphs ++ rootFaults base paragraphs ++ tokenFaults base paragraphs

/-- The compiled text. -/
def compiled : PatternSet where
  namespaces := namespaces paragraphs
  variableTable := variableTable base paragraphs
  patterns := (blocks paragraphs).map fun block =>
    block.body.filterMap (compiledLine? base paragraphs)
  blocks := (blocks paragraphs).zipIdx.map fun (block, number) =>
    { condition := block.condition, pattern := number, line := block.line }

end PatternText

end AnswerGraph
