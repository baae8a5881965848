import AnswerGraph.Proofs.PatternGrammar
import AnswerGraph.Proofs.PatternSheetLines
import AnswerGraph.Proofs.PatternTerms

/-!
A written sheet compiles to what it stands for. Its text is cut into the lines that were written;
the blank lines cut these into one paragraph for the declarations and one for each block, so that
the grammar of paragraphs says what is compiled and that there are no faults.
-/

namespace AnswerGraph

/-! ## Numbered lines -/

/-- Reading the lines that were written for the members of a list, if every line is read as its
member is meant, whatever its number. -/
theorem filterMap_numberedFrom {α β : Type} {read : Nat × List Char → Option β}
    {write : α → List Char} {meaning : α → β} {members : List α}
    (reads : ∀ member ∈ members, ∀ number, read (number, write member) = some (meaning member))
    (number : Nat) :
    (numberedFrom number (members.map write)).filterMap read = members.map meaning := by
  induction members generalizing number with
  | nil => rfl
  | cons member rest ih =>
    have here := reads member List.mem_cons_self number
    have behind := ih (fun other listed => reads other (List.mem_cons_of_mem member listed))
      (number + 1)
    rw [List.map_cons, numberedFrom_cons, List.filterMap_cons, here, behind, List.map_cons]

/-! ## Paragraphs -/

namespace Paragraph

/-- A paragraph whose lines open no block. -/
theorem cut_of_plain {paragraph : Paragraph}
    (plain : ∀ line ∈ paragraph.lines, opensBlock line = false) :
    paragraph.header = paragraph.lines ∧ paragraph.condition? = none ∧ paragraph.body = [] := by
  have before : ∀ line ∈ paragraph.lines, (!opensBlock line) = true := by
    intro line member
    simp [plain line member]
  have behind : paragraph.lines.dropWhile (fun line => !opensBlock line) = [] := by
    simpa using before
  refine ⟨List.takeWhile_eq_self_iff.mpr before, ?_, ?_⟩
  · rw [condition?, behind]
    rfl
  · rw [body, behind]
    rfl

/-- A paragraph whose first line opens a block. -/
theorem cut_of_opening {paragraph : Paragraph} {first : Nat × List Char}
    {rest : List (Nat × List Char)} (lines : paragraph.lines = first :: rest)
    (opening : opensBlock first = true) :
    paragraph.header = [] ∧ paragraph.condition? = some first ∧ paragraph.body = rest := by
  rw [header, condition?, body, lines, List.takeWhile_cons, List.dropWhile_cons, opening]
  exact ⟨rfl, rfl, rfl⟩

end Paragraph

/-! ## Blocks -/

namespace SheetBlock

variable {declared : List String} {block : SheetBlock}

/-- The lines of a block as they are numbered from its condition on. -/
def paragraph (line : Nat) (block : SheetBlock) : Paragraph where
  lines := numberedFrom line block.writtenLines
  closed := true

def raw (line : Nat) (block : SheetBlock) : RawBlock where
  condition := block.condition
  line
  body := numberedFrom (line + 1) (block.lines.map SheetComponent.writeLine)

/-- A line of the block's body was written for some line of components. -/
theorem exists_of_mem_body {line : Nat} {written : Nat × List Char}
    (member : written ∈ (block.raw line).body) :
    ∃ components ∈ block.lines, written.2 = SheetComponent.writeLine components := by
  obtain ⟨components, listed, same⟩ := List.mem_map.mp (mem_of_mem_numberedFrom member)
  exact ⟨components, listed, same.symm⟩

theorem fullLine_written (prefixes : ∀ namePrefix ∈ declared, WritablePrefix namePrefix)
    (writable : block.Writable declared) : ∀ line ∈ block.writtenLines, FullLine line := by
  intro line member
  rcases List.mem_cons.mp member with rfl | inside
  · exact writable.condition.fullLine_write
  · obtain ⟨components, listed, rfl⟩ := List.mem_map.mp inside
    exact SheetComponent.fullLine_writeLine prefixes (writable.component components listed)
      (writable.filled components listed)

theorem opens_body (prefixes : ∀ namePrefix ∈ declared, WritablePrefix namePrefix)
    (writable : block.Writable declared) (line : Nat) :
    ∀ written ∈ (block.raw line).body, Condition.opens written.2 = false := by
  intro written member
  obtain ⟨components, listed, same⟩ := exists_of_mem_body member
  rw [same]
  exact SheetComponent.opens_writeLine prefixes (writable.component components listed)
    (writable.filled components listed) (writable.keyless components listed)

theorem cut_paragraph (writable : block.Writable declared) (line : Nat) :
    (block.paragraph line).header = [] ∧
      (block.paragraph line).condition? = some (line, block.condition.write) ∧
      (block.paragraph line).body = (block.raw line).body :=
  Paragraph.cut_of_opening rfl writable.condition.opens_write

theorem declarations_paragraph (writable : block.Writable declared) (line : Nat) :
    (block.paragraph line).declarations = [] := by
  rw [Paragraph.declarations, (cut_paragraph writable line).1]
  rfl

theorem block?_paragraph (writable : block.Writable declared) (line : Nat) :
    (block.paragraph line).block? = some (block.raw line) := by
  obtain ⟨-, condition, body⟩ := cut_paragraph writable line
  rw [Paragraph.block?, Paragraph.opened?, condition, body]
  simp [paragraph, raw, writable.condition.ofLine_write]

theorem conditionFaults_paragraph
    (prefixes : ∀ namePrefix ∈ declared, WritablePrefix namePrefix)
    (writable : block.Writable declared) (line : Nat) :
    (block.paragraph line).conditionFaults = [] := by
  obtain ⟨-, condition, body⟩ := cut_paragraph writable line
  rw [Paragraph.conditionFaults, condition, body, List.append_eq_nil_iff]
  constructor
  · simp [writable.condition.ofLine_write, writable.condition.keyed]
  · rw [List.filterMap_eq_nil_iff]
    intro written member
    simp [opens_body prefixes writable line written member]

end SheetBlock

namespace PatternSheet

theorem map_snd_placedFrom (line : Nat) (blocks : List SheetBlock) :
    (placedFrom line blocks).map Prod.snd = blocks := by
  induction blocks generalizing line with
  | nil => rfl
  | cons block rest ih => rw [placedFrom, List.map_cons, ih]

theorem mem_of_mem_placedFrom {line : Nat} {blocks : List SheetBlock} {placed : Nat × SheetBlock}
    (member : placed ∈ placedFrom line blocks) : placed.2 ∈ blocks := by
  rw [← map_snd_placedFrom line blocks]
  exact List.mem_map_of_mem member

/-- The blocks are the paragraphs behind the declarations. -/
theorem ofLines_blocks {declared : List String} {blocks : List SheetBlock}
    (prefixes : ∀ namePrefix ∈ declared, WritablePrefix namePrefix)
    (writable : ∀ block ∈ blocks, block.Writable declared) (line : Nat) :
    Paragraph.ofLines (numberedFrom line (blocks.flatMap fun block => block.writtenLines ++ [[]])) =
      (placedFrom line blocks).map fun placed => placed.2.paragraph placed.1 := by
  induction blocks generalizing line with
  | nil => exact Paragraph.ofLines_eq_nil rfl
  | cons block rest ih =>
    have own := SheetBlock.fullLine_written prefixes (writable block List.mem_cons_self)
    have behind := ih (fun other listed => writable other (List.mem_cons_of_mem block listed))
      (line + block.lines.length + 2)
    have visible : ∀ written ∈ numberedFrom line block.writtenLines, isBlankLine written = false :=
      fun written member => (own _ (mem_of_mem_numberedFrom member)).isAllBlank_eq_false
    have size : line + block.writtenLines.length + 1 = line + block.lines.length + 2 := by
      simp [SheetBlock.writtenLines]
      omega
    rw [List.flatMap_cons, List.append_assoc, List.singleton_append, numberedFrom_append,
      numberedFrom_cons, Paragraph.ofLines_run (by simp [numberedFrom, SheetBlock.writtenLines])
        visible rfl, size, behind]
    rfl

/-! ## The text -/

variable {base : String} {sheet : PatternSheet}

theorem Writable.prefixes (writable : sheet.Writable base) :
    ∀ namePrefix ∈ sheet.declared, WritablePrefix namePrefix := by
  intro namePrefix member
  obtain ⟨declaration, listed, rfl⟩ := List.mem_map.mp member
  exact (writable.declaration declaration listed).prefixed

theorem Writable.fullLine_header (writable : sheet.Writable base) :
    ∀ line ∈ sheet.headerLines, FullLine line := by
  intro line member
  rcases List.mem_cons.mp member with rfl | inside
  · exact FullLine.declarationsKeyword
  · obtain ⟨declaration, listed, rfl⟩ := List.mem_map.mp inside
    exact (writable.declaration declaration listed).fullLine_written

/-- The reader sees the lines that were written. -/
theorem Writable.lines_text (writable : sheet.Writable base) :
    Text.lines sheet.text.toList = sheet.writtenLines := by
  rw [text, String.toList_ofList]
  apply Text.lines_flatMap
  intro line member
  have full : line = [] ∨ FullLine line := by
    rcases List.mem_append.mp member with header | behind
    · exact .inr (writable.fullLine_header line header)
    · rcases List.mem_cons.mp behind with blank | inside
      · exact .inl blank
      · obtain ⟨block, listed, inside⟩ := List.mem_flatMap.mp inside
        rcases List.mem_append.mp inside with own | blank
        · exact .inr (SheetBlock.fullLine_written writable.prefixes (writable.block block listed)
            line own)
        · exact .inl (List.mem_singleton.mp blank)
  rcases full with rfl | full
  · simp
  · exact ⟨full.unbroken, full.returnless⟩

/-- The declarations with the word in front of them. -/
def headerParagraph (sheet : PatternSheet) : Paragraph where
  lines := numberedFrom 1 sheet.headerLines
  closed := true

theorem Writable.paragraphs_text (writable : sheet.Writable base) :
    PatternText.paragraphs sheet.text =
      sheet.headerParagraph ::
        sheet.placedBlocks.map fun placed => placed.2.paragraph placed.1 := by
  have visible : ∀ written ∈ numberedFrom 1 sheet.headerLines, isBlankLine written = false :=
    fun written member =>
      (writable.fullLine_header _ (mem_of_mem_numberedFrom member)).isAllBlank_eq_false
  have size : 1 + sheet.headerLines.length + 1 = sheet.declarations.length + 3 := by
    simp [headerLines]
    omega
  rw [PatternText.paragraphs, writable.lines_text, writtenLines, numberedFrom_append,
    numberedFrom_cons, Paragraph.ofLines_run (by simp [numberedFrom, headerLines]) visible rfl,
    size, ofLines_blocks writable.prefixes writable.block]
  rfl

/-! ## What the paragraphs declare -/

theorem Writable.header_headerParagraph (writable : sheet.Writable base) :
    sheet.headerParagraph.header = numberedFrom 1 sheet.headerLines ∧
      sheet.headerParagraph.condition? = none ∧ sheet.headerParagraph.body = [] := by
  apply Paragraph.cut_of_plain
  intro line member
  rcases List.mem_cons.mp (mem_of_mem_numberedFrom member) with keyword | inside
  · rw [opensBlock, keyword]
    rfl
  · obtain ⟨declaration, listed, same⟩ := List.mem_map.mp inside
    rw [opensBlock, ← same]
    exact (writable.declaration declaration listed).opens_eq_false

theorem Writable.declarations_headerParagraph (writable : sheet.Writable base) :
    sheet.headerParagraph.declarations =
      (numberedFrom 2 (sheet.declarations.map writeDeclaration)).filterMap
        PlacedDeclaration.ofLine? := by
  rw [Paragraph.declarations, writable.header_headerParagraph.1, headerLines, numberedFrom_cons,
    List.dropWhile_cons_of_neg (by decide), List.filterMap_cons]
  rfl

/-- Nothing but the declarations is kept of the lines that hold them. -/
theorem Writable.map_declarations {α : Type} (writable : sheet.Writable base)
    (keep : PlacedDeclaration → α) (meaning : String × String → α)
    (keeps : ∀ line namePrefix root, keep ⟨line, namePrefix, root⟩ = meaning (namePrefix, root)) :
    sheet.headerParagraph.declarations.map keep = sheet.declarations.map meaning := by
  rw [writable.declarations_headerParagraph, List.map_filterMap]
  apply filterMap_numberedFrom
  intro declaration listed number
  simp [PlacedDeclaration.ofLine?, (writable.declaration declaration listed).ofLine?_written, keeps]

theorem Writable.namespaces_text (writable : sheet.Writable base) :
    PatternText.namespaces (PatternText.paragraphs sheet.text) = ⟨sheet.declarations⟩ := by
  have others : (sheet.placedBlocks.map fun placed => placed.2.paragraph placed.1).flatMap
      Paragraph.declarations = [] := by
    rw [List.flatMap_eq_nil_iff]
    intro paragraph member
    obtain ⟨placed, listed, rfl⟩ := List.mem_map.mp member
    exact SheetBlock.declarations_paragraph (writable.block _ (mem_of_mem_placedFrom listed)) _
  have entries := writable.map_declarations PlacedDeclaration.entry id
    fun line namePrefix root => rfl
  rw [PatternText.namespaces, writable.paragraphs_text, List.flatMap_cons, others, List.append_nil,
    entries, List.map_id]

theorem Writable.blocks_text (writable : sheet.Writable base) :
    PatternText.blocks (PatternText.paragraphs sheet.text) =
      sheet.placedBlocks.map fun placed => placed.2.raw placed.1 := by
  have unopened : sheet.headerParagraph.block? = none := by
    rw [Paragraph.block?, Paragraph.opened?, writable.header_headerParagraph.2.1]
    rfl
  rw [PatternText.blocks, writable.paragraphs_text, List.filterMap_cons_none unopened,
    List.filterMap_map, ← List.filterMap_eq_map]
  apply List.filterMap_congr
  intro placed listed
  exact SheetBlock.block?_paragraph (writable.block _ (mem_of_mem_placedFrom listed)) _

/-! ## Tokens of the text -/

/-- The variables of a line are those among its words. -/
theorem Writable.variables_line (writable : sheet.Writable base) {line : List SheetComponent}
    (written : ∀ component ∈ line, component.Writable sheet.declared) :
    ((Text.words (SheetComponent.writeLine line)).filterMap variableName?).map String.ofList =
      line.filterMap SheetComponent.variable? := by
  have names : (line.map SheetComponent.token).filterMap variableName? =
      (line.filterMap SheetComponent.variable?).map String.toList := by
    rw [List.filterMap_map, List.map_filterMap]
    apply List.filterMap_congr
    intro component member
    exact SheetComponent.variableName?_token writable.prefixes (written component member)
  rw [SheetComponent.words_writeLine writable.prefixes written, List.filterMap_append, names]
  simp [show variableName? ['.'] = none from rfl, Function.comp_def]

theorem Writable.variables_block (writable : sheet.Writable base) {block : SheetBlock}
    (listed : block ∈ sheet.blocks) (line : Nat) :
    (((block.raw line).body.flatMap fun written => Text.words written.2).filterMap
        variableName?).map String.ofList =
      block.lines.flatMap fun components => components.filterMap SheetComponent.variable? := by
  have words : (block.raw line).body.flatMap (fun written => Text.words written.2) =
      block.lines.flatMap fun components => Text.words (SheetComponent.writeLine components) := by
    rw [SheetBlock.raw, ← List.flatMap_map, map_snd_numberedFrom, List.flatMap_map]
  rw [words, List.filterMap_flatMap, List.map_flatMap]
  apply List.flatMap_congr
  intro components member
  exact writable.variables_line ((writable.block block listed).component components member)

theorem Writable.variableTable_text (writable : sheet.Writable base) :
    PatternText.variableTable base (PatternText.paragraphs sheet.text) =
      { base, names := sheet.variableNames } := by
  have blocks : ((sheet.placedBlocks.map fun placed => placed.2.raw placed.1).flatMap
        fun block => ((block.body.flatMap fun line => Text.words line.2).filterMap
          variableName?).map String.ofList) =
      sheet.blocks.flatMap fun block =>
        block.lines.flatMap fun line => line.filterMap SheetComponent.variable? := by
    rw [← map_snd_placedFrom (sheet.declarations.length + 3) sheet.blocks, List.flatMap_map,
      List.flatMap_map]
    apply List.flatMap_congr
    intro placed listed
    exact writable.variables_block (mem_of_mem_placedFrom listed) placed.1
  rw [PatternText.variableTable, writable.blocks_text, List.flatMap_assoc, List.filterMap_flatMap,
    List.map_flatMap, blocks, variableNames]

/-- A variable of the sheet is in the table. -/
theorem mem_variableNames {block : SheetBlock} {line : List SheetComponent} {name : String}
    (listed : block ∈ sheet.blocks) (member : line ∈ block.lines)
    (used : .named name ∈ line) : name ∈ sheet.variableNames := by
  rw [variableNames, mem_firsts, List.mem_flatMap]
  refine ⟨block, listed, List.mem_flatMap.mpr ⟨line, member, ?_⟩⟩
  exact List.mem_filterMap.mpr ⟨.named name, used, rfl⟩

theorem iri?_of_mem (base : String) {name : String} (member : name ∈ sheet.variableNames) :
    Variables.iri? { base, names := sheet.variableNames } name =
      some (base ++ toString (sheet.variableNames.idxOf name)) := by
  have rank : sheet.variableNames.idxOf? name = some (sheet.variableNames.idxOf name) :=
    List.findIdx?_eq_some_of_exists ⟨name, member, beq_self_eq_true name⟩
  rw [Variables.iri?, rank]
  rfl

theorem root?_of_mem {namePrefix : String} (member : namePrefix ∈ sheet.declared) :
    Namespaces.root? ⟨sheet.declarations⟩ namePrefix =
      some ((sheet.declarations.lookup namePrefix).getD "") := by
  have known : (sheet.declarations.lookup namePrefix).isSome := by
    simpa [declared] using member
  obtain ⟨root, found⟩ := Option.isSome_iff_exists.mp known
  rw [Namespaces.root?, found, Option.getD_some]

/-- Every token is compiled to what its component stands for, on whatever line it is. -/
theorem Writable.compileToken_token (writable : sheet.Writable base) {block : SheetBlock}
    {line : List SheetComponent} {component : SheetComponent} (listed : block ∈ sheet.blocks)
    (member : line ∈ block.lines) (used : component ∈ line) (number : Nat) :
    PatternText.compileToken base (PatternText.paragraphs sheet.text) number component.token =
      .ok (sheet.component base component) := by
  have written := (writable.block block listed).component line member component used
  have read := SheetComponent.variableName?_token writable.prefixes written
  have unopened := SheetComponent.startsWith_token writable.prefixes written
  rw [PatternText.compileToken, writable.namespaces_text, writable.variableTable_text,
    Component.ofToken]
  cases component with
  | named variableName =>
    have opened : Text.startsWith (SheetComponent.named variableName).token ['<'] = true := rfl
    have known := iri?_of_mem base (mem_variableNames listed member used)
    simp [opened, read, SheetComponent.variable?, known, component]
  | prefixed namePrefix name =>
    have cut : Text.cutAtChar? ':' (SheetComponent.prefixed namePrefix name).token =
        some (namePrefix.toList, name.toList) :=
      Text.cutAtChar?_eq_some (writable.prefixes namePrefix written.1).unmarked.1 _
    simp [unopened rfl, cut, root?_of_mem written.1, component]
  | answer => rfl
  | literal value =>
    obtain ⟨-, unmarked, -, other⟩ := written
    have whole : Text.cutAtChar? ':' value.toList = none := Text.cutAtChar?_eq_none unmarked
    simp only [SheetComponent.token] at unopened
    simp [SheetComponent.token, unopened rfl, whole, other, component]

theorem Writable.tokens_line (writable : sheet.Writable base) {block : SheetBlock}
    {line : List SheetComponent} (listed : block ∈ sheet.blocks) (member : line ∈ block.lines) :
    StatementPattern.tokens (SheetComponent.writeLine line) = line.map SheetComponent.token :=
  SheetComponent.tokens_writeLine writable.prefixes
    ((writable.block block listed).component line member)
    ((writable.block block listed).filled line member)

theorem Writable.compiledLine?_line (writable : sheet.Writable base) {block : SheetBlock}
    {line : List SheetComponent} (listed : block ∈ sheet.blocks) (member : line ∈ block.lines)
    (number : Nat) :
    PatternText.compiledLine? base (PatternText.paragraphs sheet.text)
        (number, SheetComponent.writeLine line) =
      some ⟨line.map (sheet.component base)⟩ := by
  have components : (StatementPattern.tokens (SheetComponent.writeLine line)).filterMap
      (fun token => (PatternText.compileToken base (PatternText.paragraphs sheet.text) number
        token).toOption) = line.map (sheet.component base) := by
    rw [writable.tokens_line listed member, List.filterMap_map, ← List.filterMap_eq_map]
    apply List.filterMap_congr
    intro component used
    rw [Function.comp_apply, writable.compileToken_token listed member used]
    rfl
  obtain ⟨first, rest, filled⟩ :=
    List.exists_cons_of_ne_nil ((writable.block block listed).filled line member)
  rw [PatternText.compiledLine?, components, filled]
  rfl

/-! ## Faults of the text -/

theorem repetitions_eq_nil {declared : List String} {declarations : List PlacedDeclaration}
    (distinct : (declared ++ declarations.map PlacedDeclaration.namePrefix).Nodup) :
    repetitions declared declarations = [] := by
  induction declarations generalizing declared with
  | nil => rfl
  | cons declaration rest ih =>
    have fresh : declaration.namePrefix ∉ declared := by
      intro known
      obtain ⟨-, -, apart⟩ := List.nodup_append.mp distinct
      exact apart _ known _ List.mem_cons_self rfl
    have others : (declared ++ [declaration.namePrefix] ++
        rest.map PlacedDeclaration.namePrefix).Nodup := by
      rw [List.append_assoc]
      exact distinct
    rw [repetitions, if_neg fresh, ih others]
    rfl

theorem lineFaults_eq_nil {paragraphs : List Paragraph}
    (undeclaring : ∀ paragraph ∈ paragraphs, paragraph.declarations = [])
    (faultless : ∀ paragraph ∈ paragraphs, paragraph.conditionFaults = [])
    (declared : List String) : lineFaults declared paragraphs = [] := by
  induction paragraphs generalizing declared with
  | nil => rfl
  | cons paragraph rest ih =>
    rw [lineFaults, undeclaring paragraph List.mem_cons_self,
      faultless paragraph List.mem_cons_self]
    exact ih (fun other member => undeclaring other (List.mem_cons_of_mem paragraph member))
      (fun other member => faultless other (List.mem_cons_of_mem paragraph member)) _

theorem Writable.lineFaults_text (writable : sheet.Writable base) :
    lineFaults [] (PatternText.paragraphs sheet.text) = [] := by
  have names := writable.map_declarations PlacedDeclaration.namePrefix Prod.fst
    fun line namePrefix root => rfl
  have unrepeated : repetitions [] sheet.headerParagraph.declarations = [] := by
    apply repetitions_eq_nil
    rw [List.nil_append, names]
    exact writable.distinct
  have unconditional : sheet.headerParagraph.conditionFaults = [] := by
    obtain ⟨-, condition, body⟩ := writable.header_headerParagraph
    rw [Paragraph.conditionFaults, condition, body]
    rfl
  rw [writable.paragraphs_text, lineFaults, unrepeated, unconditional]
  apply lineFaults_eq_nil
  · intro paragraph member
    obtain ⟨placed, listed, rfl⟩ := List.mem_map.mp member
    exact SheetBlock.declarations_paragraph (writable.block _ (mem_of_mem_placedFrom listed)) _
  · intro paragraph member
    obtain ⟨placed, listed, rfl⟩ := List.mem_map.mp member
    exact SheetBlock.conditionFaults_paragraph writable.prefixes
      (writable.block _ (mem_of_mem_placedFrom listed)) _

theorem Writable.rootFaults_text (writable : sheet.Writable base) :
    PatternText.rootFaults base (PatternText.paragraphs sheet.text) = [] := by
  rw [PatternText.rootFaults, writable.namespaces_text, List.filterMap_eq_nil_iff]
  rintro ⟨namePrefix, root⟩ listed
  obtain ⟨behind, before⟩ := (writable.declaration _ listed).apart
  have apart : PatternSet.overlaps root base = false := by
    rw [Bool.eq_false_iff, ne_eq, PatternSet.overlaps_iff]
    rintro (overlap | overlap)
    · exact before overlap
    · exact behind overlap
  simp [apart]

theorem Writable.tokenFaults_text (writable : sheet.Writable base) :
    PatternText.tokenFaults base (PatternText.paragraphs sheet.text) = [] := by
  rw [PatternText.tokenFaults, writable.blocks_text, List.flatMap_eq_nil_iff]
  rintro ⟨number, written⟩ member
  obtain ⟨raw, opened, inside⟩ := List.mem_flatMap.mp member
  obtain ⟨placed, listed, rfl⟩ := List.mem_map.mp opened
  have own := mem_of_mem_placedFrom listed
  obtain ⟨line, meant, rfl⟩ := SheetBlock.exists_of_mem_body inside
  simp only [writable.tokens_line own meant, List.filterMap_eq_nil_iff]
  intro token spelt
  obtain ⟨component, used, rfl⟩ := List.mem_map.mp spelt
  rw [writable.compileToken_token own meant used]
  rfl

/-! ## The compiled text -/

theorem Writable.compiled_text (writable : sheet.Writable base) :
    PatternText.compiled base (PatternText.paragraphs sheet.text) = sheet.compiled base := by
  have patterns : (sheet.placedBlocks.map fun placed => placed.2.raw placed.1).map
        (fun block => block.body.filterMap
          (PatternText.compiledLine? base (PatternText.paragraphs sheet.text))) =
      sheet.blocks.map fun block =>
        block.lines.map fun line => ⟨line.map (sheet.component base)⟩ := by
    rw [← map_snd_placedFrom (sheet.declarations.length + 3) sheet.blocks, List.map_map,
      List.map_map]
    apply List.map_congr_left
    intro placed listed
    apply filterMap_numberedFrom
    intro line member number
    exact writable.compiledLine?_line (mem_of_mem_placedFrom listed) member number
  rw [PatternText.compiled, compiled, writable.namespaces_text, writable.variableTable_text,
    writable.blocks_text, patterns, List.zipIdx_map, List.map_map]
  rfl

/-- The text of a sheet that can be written compiles to the declarations, the variables, the blocks
and the components of the sheet. -/
theorem ofText_text (writable : sheet.Writable base) :
    PatternSet.ofText base sheet.text = .ok (sheet.compiled base) := by
  rw [PatternSet.ofText_eq_unlessFaulty, writable.compiled_text, PatternText.faults,
    writable.lineFaults_text, writable.rootFaults_text, writable.tokenFaults_text]
  rfl

/-- A sheet with a prefix and literals that look like keywords, a name with a colon and an empty
one, and a dot among its literals. -/
def workshop : PatternSheet where
  declarations := [("ex", "http://example.org/x/"), ("IFx", "urn:if:")]
  blocks := [
    { condition := ⟨["Milling", "Turning"], .and⟩
      lines := [
        [.named "part", .prefixed "ex" "a:b", .answer],
        [.prefixed "IFx" "", .named "part.2", .literal "."]] },
    { condition := ⟨["IF"], .only⟩
      lines := [[.literal "NAMESPACE", .named "tool", .named "part"]] }]

def workshopText : String :=
  "NAMESPACES\nex: <http://example.org/x/>\nIFx: <urn:if:>\n\n" ++
    "IF Milling AND Turning:\n<part> ex:a:b #ANSWER .\nIFx: <part.2> . .\n\n" ++
      "IF IF:\nNAMESPACE <tool> <part> .\n\n"

def workshopSet : PatternSet where
  namespaces := ⟨[("ex", "http://example.org/x/"), ("IFx", "urn:if:")]⟩
  variableTable := { base := "http://example.org/v/", names := ["part", "part.2", "tool"] }
  patterns := [
    [⟨[.named "part" "http://example.org/v/0", .namespaced "http://example.org/x/" "a:b",
        .placeholder]⟩,
      ⟨[.namespaced "urn:if:" "", .named "part.2" "http://example.org/v/1", .literal "."]⟩],
    [⟨[.literal "NAMESPACE", .named "tool" "http://example.org/v/2",
        .named "part" "http://example.org/v/0"]⟩]]
  blocks := [
    { condition := ⟨["Milling", "Turning"], .and⟩, pattern := 0, line := 5 },
    { condition := ⟨["IF"], .only⟩, pattern := 1, line := 9 }]

theorem ofText_text_workshop :
    workshop.Writable "http://example.org/v/" ∧ workshop.text = workshopText ∧
      PatternSet.ofText "http://example.org/v/" workshopText = .ok workshopSet := by
  have writable : workshop.Writable "http://example.org/v/" := by decide +kernel
  have written : workshop.text = workshopText := by decide +kernel
  have meant : workshop.compiled "http://example.org/v/" = workshopSet := by decide +kernel
  refine ⟨writable, written, ?_⟩
  rw [← written, ofText_text writable, meant]

end PatternSheet

end AnswerGraph
