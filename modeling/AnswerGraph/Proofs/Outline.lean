import AnswerGraph.Proofs.Firsts
import AnswerGraph.Proofs.Paragraph
import Mathlib.Data.List.TakeWhile

/-!
The reader of pattern texts agrees with the grammar of paragraphs. Between two paragraphs the
reader has no open block and expects no declarations; from such a state it reads one paragraph to
exactly its declarations and the block that it opens, and its faults are those of the paragraph in
the order of the lines. The passes over the outline look for the remaining faults in order.
-/

namespace AnswerGraph

theorem isSome_root?_iff (table : Namespaces) (namePrefix : String) :
    (table.root? namePrefix).isSome ↔ namePrefix ∈ table.entries.map Prod.fst := by
  simp [Namespaces.root?]

namespace Namespaces

/-- The prefixes that a table declares. -/
def names (table : Namespaces) : List String := table.entries.map Prod.fst

def addAll (table : Namespaces) (declarations : List PlacedDeclaration) : Namespaces :=
  ⟨table.entries ++ declarations.map PlacedDeclaration.entry⟩

theorem names_addAll (table : Namespaces) (declarations : List PlacedDeclaration) :
    (table.addAll declarations).names =
      table.names ++ declarations.map PlacedDeclaration.namePrefix := by
  simp [names, addAll, PlacedDeclaration.entry, Function.comp_def]

theorem addAll_addAll (table : Namespaces) (some more : List PlacedDeclaration) :
    (table.addAll some).addAll more = table.addAll (some ++ more) := by
  simp [addAll]

theorem addAll_nil (table : Namespaces) : table.addAll [] = table := by
  simp [addAll]

theorem declare_eq (table : Namespaces) (declaration : PlacedDeclaration) :
    table.declare declaration.namePrefix declaration.root declaration.line =
      unlessFaulty (table.addAll [declaration]) (repetitions table.names [declaration]) := by
  by_cases known : declaration.namePrefix ∈ table.names
  · simp [declare, (isSome_root?_iff table _).mpr known, repetitions, known, unlessFaulty]
  · have unknown : ¬ (table.root? declaration.namePrefix).isSome := fun found =>
      known ((isSome_root?_iff table _).mp found)
    simp [declare, unknown, repetitions, known, unlessFaulty, addAll, PlacedDeclaration.entry]

end Namespaces

theorem repetitions_append (declared : List String) (some more : List PlacedDeclaration) :
    repetitions declared (some ++ more) = repetitions declared some ++
      repetitions (declared ++ some.map PlacedDeclaration.namePrefix) more := by
  induction some generalizing declared with
  | nil => simp [repetitions]
  | cons declaration rest ih => simp [repetitions, ih]

theorem exists_of_mem_repetitions {declared : List String} {declarations : List PlacedDeclaration}
    {fault : PatternError} (member : fault ∈ repetitions declared declarations) :
    ∃ declaration ∈ declarations,
      fault = .duplicateNamespace declaration.namePrefix declaration.line := by
  induction declarations generalizing declared with
  | nil => cases member
  | cons declaration rest ih =>
    rw [repetitions, List.mem_append] at member
    rcases member with here | later
    · split at here
      · exact ⟨declaration, List.mem_cons_self, List.mem_singleton.mp here⟩
      · cases here
    · obtain ⟨other, listed, same⟩ := ih later
      exact ⟨other, List.mem_cons_of_mem declaration listed, same⟩

namespace Outline

/-- Reads lines with their numbers. -/
def readNumbered (outline : Outline) (lines : List (Nat × List Char)) :
    Except PatternError Outline :=
  lines.foldlM (fun outline line => outline.readLine line.1 line.2) outline

theorem readLines_eq (outline : Outline) (number : Nat) (lines : List (List Char)) :
    outline.readLines number lines = outline.readNumbered (numberedFrom number lines) := by
  induction lines generalizing outline number with
  | nil => rfl
  | cons line rest ih =>
    simp only [readLines, ih]
    rfl

/-- Reading stops at the faults of the first lines, or goes on behind them. -/
theorem readNumbered_append {outline next : Outline} {faults more : List PatternError}
    {last : Outline} {lines rest : List (Nat × List Char)}
    (first : outline.readNumbered lines = unlessFaulty next faults)
    (second : next.readNumbered rest = unlessFaulty last more) :
    outline.readNumbered (lines ++ rest) = unlessFaulty last (faults ++ more) := by
  rw [readNumbered, List.foldlM_append, ← readNumbered, first]
  cases faults with
  | nil => exact second
  | cons fault others => rfl

theorem readNumbered_cons {outline next : Outline} {faults more : List PatternError}
    {last : Outline} {line : Nat × List Char} {rest : List (Nat × List Char)}
    (first : outline.readLine line.1 line.2 = unlessFaulty next faults)
    (second : next.readNumbered rest = unlessFaulty last more) :
    outline.readNumbered (line :: rest) = unlessFaulty last (faults ++ more) := by
  rw [readNumbered, List.foldlM_cons, first]
  cases faults with
  | nil => exact second
  | cons fault others => rfl

/-! ## The header of a paragraph -/

/-- The declarations of some header lines, which are expected at once if `declaring` is set. -/
def declared (declaring : Bool) (header : List (Nat × List Char)) : List PlacedDeclaration :=
  (if declaring then header else header.dropWhile fun line => !startsDeclarations line).filterMap
    PlacedDeclaration.ofLine?

theorem declared_cons (declaring : Bool) (line : Nat × List Char) (rest : List (Nat × List Char)) :
    declared declaring (line :: rest) =
      (if declaring || startsDeclarations line then (PlacedDeclaration.ofLine? line).toList
        else []) ++ declared (declaring || startsDeclarations line) rest := by
  cases declaring <;> cases starts : startsDeclarations line <;>
    cases found : PlacedDeclaration.ofLine? line <;>
    simp [declared, starts, found]

theorem declareLine_eq (outline : Outline) (line : Nat × List Char) :
    outline.declareLine line.1 line.2 =
      let declaring := outline.declaring || startsDeclarations line
      let found := if declaring then (PlacedDeclaration.ofLine? line).toList else []
      unlessFaulty { outline with namespaces := outline.namespaces.addAll found, declaring }
        (repetitions outline.namespaces.names found) := by
  have starts : Text.contains "NAMESPACE".toList line.2 = startsDeclarations line := rfl
  simp only [declareLine, starts]
  cases declaring : outline.declaring || startsDeclarations line with
  | false => simp [Namespaces.addAll_nil, repetitions, unlessFaulty]
  | true =>
    cases found : Declaration.ofLine? line.2 with
    | none =>
      simp [PlacedDeclaration.ofLine?, found, Namespaces.addAll_nil, repetitions, unlessFaulty]
    | some declaration =>
      have declare := outline.namespaces.declare_eq
        ⟨line.1, String.ofList declaration.namePrefix, String.ofList declaration.root⟩
      simp only [PlacedDeclaration.ofLine?, found, Option.map_some, Option.toList_some, if_true]
      rw [declare]
      exact unlessFaulty_map _ _ _

/-- Outside of a block the reader collects the declarations of header lines. -/
theorem readNumbered_header (outline : Outline) (outside : outline.current = none)
    (header : List (Nat × List Char))
    (plain : ∀ line ∈ header, isBlankLine line = false ∧ opensBlock line = false) :
    outline.readNumbered header =
      unlessFaulty
        { outline with
          namespaces := outline.namespaces.addAll (declared outline.declaring header)
          declaring := outline.declaring || header.any startsDeclarations }
        (repetitions outline.namespaces.names (declared outline.declaring header)) := by
  induction header generalizing outline with
  | nil =>
    cases outline
    simp [readNumbered, declared, Namespaces.addAll_nil, repetitions, unlessFaulty, pure,
      Except.pure]
  | cons line rest ih =>
    obtain ⟨solid, closed⟩ := plain line List.mem_cons_self
    have here : outline.readLine line.1 line.2 = outline.declareLine line.1 line.2 := by
      rw [isBlankLine] at solid
      rw [opensBlock] at closed
      simp [readLine, solid, closed, outside]
    rw [declareLine_eq] at here
    refine (readNumbered_cons here (ih _ outside ?_)).trans ?_
    · exact fun other member => plain other (List.mem_cons_of_mem _ member)
    · rw [declared_cons, repetitions_append, Namespaces.addAll_addAll, Namespaces.names_addAll,
        List.any_cons, Bool.or_assoc]

/-! ## The block of a paragraph -/

/-- The faults of body lines: each condition among them is nested. -/
def nestedFaults (body : List (Nat × List Char)) : List PatternError :=
  body.filterMap fun (number, line) =>
    if Condition.opens line then some (.nestedCondition number) else none

/-- Inside of a block every line belongs to its body, and a condition is a fault. -/
theorem readNumbered_body (outline : Outline) (block : RawBlock)
    (inside : outline.current = some block) (body : List (Nat × List Char))
    (solid : ∀ line ∈ body, isBlankLine line = false) :
    outline.readNumbered body =
      unlessFaulty { outline with current := some { block with body := block.body ++ body } }
        (nestedFaults body) := by
  induction body generalizing outline block with
  | nil =>
    cases outline
    simp_all [readNumbered, nestedFaults, unlessFaulty, pure, Except.pure]
  | cons line rest ih =>
    let next := { outline with current := some { block with body := block.body ++ [line] } }
    have here : outline.readLine line.1 line.2 = unlessFaulty next (nestedFaults [line]) := by
      have visible := solid line List.mem_cons_self
      rw [isBlankLine] at visible
      by_cases opens : Condition.opens line.2
      · simp [readLine, visible, opens, openBlock, inside, nestedFaults, unlessFaulty]
      · simp [readLine, visible, opens, inside, nestedFaults, unlessFaulty, next]
    have later := ih next { block with body := block.body ++ [line] } rfl fun other member =>
      solid other (List.mem_cons_of_mem _ member)
    have faults : nestedFaults (line :: rest) = nestedFaults [line] ++ nestedFaults rest :=
      List.filterMap_append (l := [line])
    rw [readNumbered_cons here later, faults]
    simp [next]

theorem readLine_condition (outline : Outline) (outside : outline.current = none)
    (line : Nat × List Char) (solid : isBlankLine line = false) (opens : opensBlock line = true) :
    outline.readLine line.1 line.2 =
      unlessFaulty
        { outline with current := some { condition := Condition.ofLine line.2, line := line.1 } }
        (if (Condition.ofLine line.2).keys.isEmpty then [.emptyCondition line.1] else []) := by
  rw [isBlankLine] at solid
  rw [opensBlock] at opens
  by_cases empty : (Condition.ofLine line.2).keys.isEmpty
  · simp [readLine, solid, opens, openBlock, outside, empty, unlessFaulty]
  · simp [readLine, solid, opens, openBlock, outside, empty, unlessFaulty]

/-! ## A paragraph and a text -/

/-- The state between paragraphs. -/
def Between (outline : Outline) : Prop :=
  outline.current = none ∧ outline.declaring = false

/-- The state after the lines of a paragraph, if it has no faults. -/
def after (outline : Outline) (paragraph : Paragraph) : Outline :=
  { outline with
    namespaces := outline.namespaces.addAll paragraph.declarations
    current := paragraph.opened?
    declaring := paragraph.header.any startsDeclarations }

theorem readNumbered_paragraph (outline : Outline) (between : Between outline)
    (paragraph : Paragraph) (solid : ∀ line ∈ paragraph.lines, isBlankLine line = false) :
    outline.readNumbered paragraph.lines =
      unlessFaulty (outline.after paragraph)
        (repetitions outline.namespaces.names paragraph.declarations ++
          paragraph.conditionFaults) := by
  obtain ⟨outside, notDeclaring⟩ := between
  have declarations : paragraph.declarations = declared outline.declaring paragraph.header := by
    rw [notDeclaring]; rfl
  have cut : paragraph.lines =
      paragraph.header ++ paragraph.lines.dropWhile fun line => !opensBlock line :=
    List.takeWhile_append_dropWhile.symm
  have header := readNumbered_header outline outside paragraph.header fun line member => by
    have kept : line ∈ paragraph.lines := (List.takeWhile_sublist _).subset member
    exact ⟨solid line kept, by simpa using List.mem_takeWhile_imp member⟩
  rw [← declarations] at header
  rw [cut] at solid ⊢
  cases rest : paragraph.lines.dropWhile fun line => !opensBlock line with
  | nil =>
    rw [List.append_nil, header]
    simp [after, Paragraph.opened?, Paragraph.conditionFaults, Paragraph.condition?,
      Paragraph.body, rest, notDeclaring, outside]
  | cons condition body =>
    rw [rest] at solid
    have opens : opensBlock condition = true := by
      have stopped := List.head?_dropWhile_not (fun line => !opensBlock line) paragraph.lines
      simpa [rest] using stopped
    have opened := readLine_condition
      { outline with
        namespaces := outline.namespaces.addAll paragraph.declarations
        declaring := outline.declaring || paragraph.header.any startsDeclarations }
      outside condition (solid condition (by simp)) opens
    have filled := readNumbered_body
      { outline with
        namespaces := outline.namespaces.addAll paragraph.declarations
        declaring := outline.declaring || paragraph.header.any startsDeclarations
        current := some { condition := Condition.ofLine condition.2, line := condition.1 } }
      _ rfl body fun line member => solid line (by simp [member])
    rw [readNumbered_append header (readNumbered_cons opened filled)]
    simp only [after, Paragraph.opened?, Paragraph.conditionFaults, Paragraph.condition?,
      Paragraph.body, rest, notDeclaring, nestedFaults]
    split <;> simp_all

theorem closeBlock_of_between {outline : Outline} (between : Between outline) :
    outline.closeBlock = outline := by
  obtain ⟨outside, notDeclaring⟩ := between
  cases outline
  simp_all [closeBlock]

theorem readNumbered_blank (outline : Outline) {line : Nat × List Char}
    (blank : isBlankLine line = true) (rest : List (Nat × List Char)) :
    outline.readNumbered (line :: rest) = outline.closeBlock.readNumbered rest := by
  rw [isBlankLine] at blank
  simp [readNumbered, readLine, blank, bind, Except.bind]

/-- Between paragraphs blank lines change nothing. -/
theorem readNumbered_blanks {outline : Outline} (between : Between outline)
    (blanks rest : List (Nat × List Char)) (blank : ∀ line ∈ blanks, isBlankLine line = true) :
    outline.readNumbered (blanks ++ rest) = outline.readNumbered rest := by
  induction blanks with
  | nil => rfl
  | cons line more ih =>
    rw [List.cons_append, readNumbered_blank outline (blank line List.mem_cons_self),
      closeBlock_of_between between]
    exact ih fun other member => blank other (List.mem_cons_of_mem _ member)

theorem between_closeBlock (outline : Outline) : Between outline.closeBlock := ⟨rfl, rfl⟩

/-- A blank line ends a paragraph, also if it is read once more. -/
theorem readNumbered_closed (outline : Outline) {line : Nat × List Char}
    (blank : isBlankLine line = true) (rest : List (Nat × List Char)) :
    outline.readNumbered (line :: rest) = outline.closeBlock.readNumbered (line :: rest) := by
  rw [readNumbered_blank _ blank, readNumbered_blank _ blank,
    closeBlock_of_between (between_closeBlock outline)]

/-- The induction is on the paragraphs: each is read from a state between paragraphs, and the blank
line behind it leads to such a state again. -/
theorem readNumbered_eq (lines : List (Nat × List Char)) (outline : Outline)
    (between : Between outline) :
    ∃ last : Outline,
      outline.readNumbered lines =
        unlessFaulty last (lineFaults outline.namespaces.names (Paragraph.ofLines lines)) ∧
      last.namespaces = outline.namespaces.addAll
        ((Paragraph.ofLines lines).flatMap Paragraph.declarations) ∧
      last.blocks = outline.blocks ++ (Paragraph.ofLines lines).filterMap Paragraph.block? := by
  induction lines using Paragraph.ofLines.induct generalizing outline with
  | case1 lines cut =>
    have blank : ∀ line ∈ lines, isBlankLine line = true := by simpa using cut
    have read := readNumbered_blanks between lines [] blank
    rw [List.append_nil] at read
    rw [Paragraph.ofLines_eq_nil cut, read]
    exact ⟨outline, rfl, (Namespaces.addAll_nil _).symm, (List.append_nil _).symm⟩
  | case2 lines first rest cut _ behind ih =>
    let paragraph : Paragraph :=
      { lines := first :: rest.takeWhile fun line => !isBlankLine line
        closed := !behind.isEmpty }
    have paragraphs : Paragraph.ofLines lines = paragraph :: Paragraph.ofLines behind :=
      Paragraph.ofLines_eq_cons cut
    have whole : lines = lines.takeWhile isBlankLine ++ (paragraph.lines ++ behind) := by
      rw [List.cons_append, List.takeWhile_append_dropWhile, ← cut,
        List.takeWhile_append_dropWhile]
    have visible : isBlankLine first = false := by
      have stopped := List.head?_dropWhile_not isBlankLine lines
      simpa [cut] using stopped
    have read := readNumbered_paragraph outline between paragraph (by
      intro line member
      rcases List.mem_cons.mp member with rfl | member
      · exact visible
      · simpa using List.mem_takeWhile_imp member)
    have skipped : outline.readNumbered lines = outline.readNumbered (paragraph.lines ++ behind) :=
      (congrArg outline.readNumbered whole).trans
        (readNumbered_blanks between _ _ fun _ => List.mem_takeWhile_imp)
    rw [skipped, paragraphs, lineFaults, List.flatMap_cons, List.filterMap_cons]
    cases ending : behind with
    | nil =>
      have nothing : Paragraph.ofLines [] = [] := Paragraph.ofLines_eq_nil rfl
      have dropped : paragraph.block? = none := by simp [Paragraph.block?, paragraph, ending]
      refine ⟨outline.after paragraph, ?_, ?_, ?_⟩
      · simpa [nothing, lineFaults] using read
      · simp [nothing, after]
      · simp [nothing, dropped, after]
    | cons line more =>
      have blank : isBlankLine line = true := by
        have stopped := List.head?_dropWhile_not (fun line => !isBlankLine line) rest
        rw [show rest.dropWhile (fun line => !isBlankLine line) = line :: more from ending]
          at stopped
        simpa using stopped
      have kept : paragraph.block? = paragraph.opened? := by
        simp [Paragraph.block?, paragraph, ending]
      obtain ⟨last, later, namespaces, blocks⟩ :=
        ih (outline.after paragraph).closeBlock (between_closeBlock _)
      rw [ending, ← readNumbered_closed _ blank] at later
      refine ⟨last, ?_, ?_, ?_⟩
      · rw [readNumbered_append read later]
        simp [after, closeBlock, Namespaces.names_addAll]
      · rw [namespaces, ending]
        simp [after, closeBlock, Namespaces.addAll_addAll]
      · rw [blocks, ending, kept]
        cases opened : paragraph.opened? <;> simp [after, closeBlock, opened]

end Outline

end AnswerGraph
