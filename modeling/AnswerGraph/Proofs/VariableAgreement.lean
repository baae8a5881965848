import AnswerGraph.Proofs.IdentifierBase
import AnswerGraph.Proofs.VariableTokens
import AnswerGraph.Proofs.Words
import Mathlib.Data.List.Nodup

/-!
The variables of a text in its two passes. The first pass collects names from the words of a line,
the second compiles the tokens of the line, which has lost a dot at its end. Dots behind a token are
not part of what it names, so the passes read the same name at each position, and whatever name the
second pass looks up has been entered by the first.
-/

namespace AnswerGraph

/-! ## Names in tokens -/

theorem variableName?_concat_dot (token : List Char) :
    variableName? (token ++ ['.']) = variableName? token := by
  cases token with
  | nil => rfl
  | cons c inner =>
    have dots : Text.dropEndWhile (· == '.') (inner ++ ['.']) =
        Text.dropEndWhile (· == '.') inner := by
      simp [Text.dropEndWhile]
    by_cases opens : '<' = c
    · subst opens
      simp [variableName?, Text.dropPrefix?, dots]
    · simp [variableName?, Text.dropPrefix?, opens]

theorem startsWith_of_variableName? {token name : List Char}
    (named : variableName? token = some name) : Text.startsWith token ['<'] = true := by
  rw [Text.startsWith]
  cases opened : Text.dropPrefix? ['<'] token with
  | none => simp [variableName?, opened] at named
  | some inner => rfl

namespace StatementPattern

/-- The words of a line are its tokens, up to one dot: it is a word of its own, or it stands behind
the last token. -/
theorem words_cases (line : List Char) :
    Text.words line = tokens line ∨ Text.words line = tokens line ++ [['.']] ∨
      ∃ init last, tokens line = init ++ [last] ∧ Text.words line = init ++ [last ++ ['.']] := by
  have trimmed := Text.words_trimEnd line
  cases cut : Text.dropSuffix? ['.'] (Text.trimEnd line) with
  | none =>
    left
    rw [tokens, cut, Option.getD_none, trimmed]
  | some front =>
    right
    rw [Text.dropSuffix?_eq_some.mp cut] at trimmed
    rw [tokens, cut, Option.getD_some, ← trimmed]
    exact Text.words_concat (by decide) front

/-- Both readings of a line name the same variable at each position. -/
theorem variableName?_tokens (line : List Char) (position : Nat) :
    (tokens line)[position]?.bind variableName? =
      (Text.words line)[position]?.bind variableName? := by
  rcases words_cases line with same | alone | ⟨init, last, read, written⟩
  · rw [same]
  · rw [alone, List.getElem?_append]
    split
    · rfl
    · next behind =>
      rw [List.getElem?_eq_none (Nat.le_of_not_lt behind)]
      cases position - (tokens line).length <;> rfl
  · rw [read, written, List.getElem?_append, List.getElem?_append]
    split
    · rfl
    · cases position - init.length with
      | zero => exact (variableName?_concat_dot last).symm
      | succ _ => rfl

end StatementPattern

/-! ## The table -/

namespace Variables

variable {table : Variables} {name iri : String}

theorem iri?_of_getElem? (distinct : table.names.Nodup) {rank : Nat}
    (found : table.names[rank]? = some name) : table.iri? name = some (table.iriAt rank) := by
  obtain ⟨inside, rfl⟩ := List.getElem?_eq_some_iff.mp found
  have first : table.names.idxOf? table.names[rank] = some rank := by
    apply List.idxOf?_eq_some_iff.mpr
    refine ⟨inside, rfl, ?_⟩
    intro earlier before same
    exact Nat.ne_of_lt before (distinct.getElem_inj_iff.mp same)
  rw [iri?, first, Option.map_some]

theorem exists_iri?_of_mem (distinct : table.names.Nodup) (listed : name ∈ table.names) :
    ∃ iri, table.iri? name = some iri := by
  obtain ⟨rank, found⟩ := List.mem_iff_getElem?.mp listed
  exact ⟨table.iriAt rank, iri?_of_getElem? distinct found⟩

/-- Different names have different identifiers. -/
theorem name_eq_iff {other otherIri : String} (first : table.iri? name = some iri)
    (second : table.iri? other = some otherIri) : name = other ↔ iri = otherIri := by
  constructor
  · rintro rfl
    exact Option.some.inj (first.symm.trans second)
  · rintro rfl
    obtain ⟨rank, found, rfl⟩ := Option.map_eq_some_iff.mp first
    obtain ⟨otherRank, otherFound, same⟩ := Option.map_eq_some_iff.mp second
    cases append_number_injective same
    obtain ⟨_, rfl, -⟩ := List.idxOf?_eq_some_iff.mp found
    obtain ⟨_, rfl, -⟩ := List.idxOf?_eq_some_iff.mp otherFound
    rfl

end Variables

namespace Component

/-- A token that names a variable of the table is compiled to it. -/
theorem ofToken_of_named {token name : List Char} {line : Nat} {namespaces : Namespaces}
    {variableTable : Variables} {iri : String} (named : variableName? token = some name)
    (known : variableTable.iri? (String.ofList name) = some iri) :
    ofToken token line namespaces variableTable = .ok (.named (String.ofList name) iri) := by
  have opens := startsWith_of_variableName? named
  exact ofToken_eq_iff.mpr (.named opens (by rw [named]; rfl) known)

/-- A variable is unknown only if what its token names, or the token itself, is not in the table. -/
theorem of_unknownVariable_of_ofToken {token : List Char} {line number : Nat} {name : String}
    {namespaces : Namespaces} {variableTable : Variables}
    (refused : ofToken token line namespaces variableTable =
      .error (.unknownVariable name number)) :
    Text.startsWith token ['<'] = true ∧ number = line ∧
      name = String.ofList ((variableName? token).getD token) ∧
      variableTable.iri? name = none := by
  cases ofToken_eq_iff.mp refused with
  | unknownVariable opens called unknown => exact ⟨opens, rfl, called, unknown⟩

end Component

namespace PatternText

variable {base : String} {paragraphs : List Paragraph}

theorem nodup_names : (variableTable base paragraphs).names.Nodup := nodup_firsts _

/-- What a token of a line names is in the table, since a word of the line names it too. -/
theorem mem_names_of_token (base : String) {line : Nat × List Char}
    (listed : line ∈ bodyLines paragraphs) {token name : List Char}
    (read : token ∈ StatementPattern.tokens line.2) (named : variableName? token = some name) :
    String.ofList name ∈ (variableTable base paragraphs).names := by
  obtain ⟨position, found⟩ := List.mem_iff_getElem?.mp read
  have agreed := StatementPattern.variableName?_tokens line.2 position
  rw [found, Option.bind_some, named] at agreed
  obtain ⟨word, there, wordNamed⟩ := Option.bind_eq_some_iff.mp agreed.symm
  apply (mem_names base paragraphs).mpr
  refine ⟨line, listed, word, List.mem_of_getElem? there, ?_⟩
  rw [wordNamed, String.toList_ofList]

/-- Single lines are never at fault for a variable. -/
theorem ne_unknownVariable_of_mem_lineFaults {declared : List String} {fault : PatternError}
    (member : fault ∈ lineFaults declared paragraphs) (name : String) (number : Nat) :
    fault ≠ .unknownVariable name number := by
  have conditions : ∀ paragraph : Paragraph,
      .unknownVariable name number ∉ paragraph.conditionFaults := by
    intro paragraph found
    simp only [Paragraph.conditionFaults, List.mem_append, List.mem_filterMap] at found
    rcases found with ⟨_, _, fault⟩ | ⟨_, _, fault⟩ <;> split at fault <;> cases fault
  rintro rfl
  induction paragraphs generalizing declared with
  | nil => cases member
  | cons paragraph rest ih =>
    rw [lineFaults, List.mem_append, List.mem_append] at member
    rcases member with (own | own) | later
    · obtain ⟨declaration, _, repeated⟩ := exists_of_mem_repetitions own
      cases repeated
    · exact conditions paragraph own
    · exact ih later

/-- A line with tokens, none of them faulty, is compiled to the components of its tokens. -/
theorem ofLine?_of_faultless {line : Nat × List Char}
    (faultless : lineTokenFaults base paragraphs line = [])
    (filled : StatementPattern.tokens line.2 ≠ []) :
    ∃ pattern, compiledLine? base paragraphs line = some pattern ∧
      StatementPattern.ofLine? line.2 line.1 (namespaces paragraphs)
        (variableTable base paragraphs) = .ok (some pattern) ∧
      pattern.components.map .ok =
        (StatementPattern.tokens line.2).map (compileToken base paragraphs line.1) := by
  have read := map_eq_of_faultless faultless
  have compiled : compiledLine? base paragraphs line = some
      ⟨(StatementPattern.tokens line.2).filterMap fun token =>
        (compileToken base paragraphs line.1 token).toOption⟩ := by
    rw [compiledLine?]
    split
    · next nothing =>
      rw [nothing] at read
      exact absurd (List.map_eq_nil_iff.mp read.symm) filled
    · rfl
  refine ⟨_, compiled, ?_, read⟩
  rw [ofLine?_eq, faultless, compiled]
  rfl

/-- The names that the words of a line are read as. -/
def namesOn (line : Nat × List Char) : List String :=
  ((Text.words line.2).filterMap variableName?).map String.ofList

/-- What the two passes over some paragraphs agree on. -/
structure SharesVariables (base : String) (paragraphs : List Paragraph) (set : PatternSet) :
    Prop where
  /-- The table lists what the closed blocks name, in the order in which it is first named. -/
  listed : set.variableTable.entries.map Prod.fst =
    firsts ((bodyLines paragraphs).flatMap namesOn)
  distinct : (set.variableTable.entries.map Prod.fst).Nodup
  ranked : ∀ (rank : Nat) (name iri : String), set.variableTable.entries[rank]? = some (name, iri) →
    iri = base ++ toString rank ∧ set.variableTable.iri? name = some iri
  apart : ∀ entry ∈ set.variableTable.entries, ∀ other ∈ set.variableTable.entries,
    (entry.1 = other.1 ↔ entry.2 = other.2)
  /-- The tokens of a line name what its words name, position by position. -/
  aligned : ∀ line ∈ bodyLines paragraphs, ∀ position : Nat,
    (StatementPattern.tokens line.2)[position]?.bind variableName? =
      (Text.words line.2)[position]?.bind variableName?
  /-- A token that names a variable stands for it in the compiled line. -/
  compiled : ∀ number block, (blocks paragraphs)[number]? = some block →
    ∀ line ∈ block.body, ∀ (position : Nat) (token name : List Char),
      (StatementPattern.tokens line.2)[position]? = some token →
      variableName? token = some name →
        ∃ iri pattern, set.variableTable.iri? (String.ofList name) = some iri ∧
          Component.ofToken token line.1 set.namespaces set.variableTable =
            .ok (.named (String.ofList name) iri) ∧
          StatementPattern.ofLine? line.2 line.1 set.namespaces set.variableTable =
            .ok (some pattern) ∧
          pattern ∈ set.pattern number ∧
          pattern.components[position]? = some (.named (String.ofList name) iri)
  /-- A name stands for one identifier in all blocks. -/
  consistent : ∀ name iri other otherIri, .named name iri ∈ set.components →
    .named other otherIri ∈ set.components → (name = other ↔ iri = otherIri)

theorem map_fst_entries (table : Variables) : table.entries.map Prod.fst = table.names := by
  have names : (Prod.fst ∘ fun entry : String × Nat => (entry.1, table.iriAt entry.2)) =
    Prod.fst := rfl
  rw [Variables.entries, List.map_map, names, List.zipIdx_map_fst]

theorem names_eq_firsts :
    (variableTable base paragraphs).names = firsts ((bodyLines paragraphs).flatMap namesOn) := by
  have read : (((bodyLines paragraphs).flatMap fun line => Text.words line.2).filterMap
      variableName?).map String.ofList = (bodyLines paragraphs).flatMap namesOn := by
    rw [List.filterMap_flatMap, List.map_flatMap]
    rfl
  rw [← read]
  rfl

/-- The entry of a rank, with its identifier. -/
theorem exists_of_getElem?_entries {table : Variables} {rank : Nat} {name iri : String}
    (found : table.entries[rank]? = some (name, iri)) :
    table.names[rank]? = some name ∧ iri = table.iriAt rank := by
  rw [Variables.entries, List.getElem?_map, List.getElem?_zipIdx, Option.map_map] at found
  obtain ⟨other, listed, same⟩ := Option.map_eq_some_iff.mp found
  cases same
  exact ⟨listed, by rw [Nat.zero_add]⟩

/-- The compiled line of a token that names a variable, in the pattern of its block. -/
theorem compiled_of_named (faultless : tokenFaults base paragraphs = []) {number : Nat}
    {block : RawBlock} (placed : (blocks paragraphs)[number]? = some block)
    {line : Nat × List Char} (inside : line ∈ block.body) {position : Nat}
    {token name : List Char} {iri : String}
    (found : (StatementPattern.tokens line.2)[position]? = some token)
    (read : compileToken base paragraphs line.1 token = .ok (.named (String.ofList name) iri)) :
    ∃ pattern,
      StatementPattern.ofLine? line.2 line.1 (namespaces paragraphs)
        (variableTable base paragraphs) = .ok (some pattern) ∧
      pattern ∈ (compiled base paragraphs).pattern number ∧
      pattern.components[position]? = some (.named (String.ofList name) iri) := by
  have lineFaultless : lineTokenFaults base paragraphs line = [] := by
    rw [tokenFaults_eq, List.flatMap_eq_nil_iff] at faultless
    exact List.flatMap_eq_nil_iff.mp (faultless block (List.mem_of_getElem? placed)) line inside
  have filled : StatementPattern.tokens line.2 ≠ [] :=
    List.ne_nil_of_mem (List.mem_of_getElem? found)
  obtain ⟨pattern, kept, compiledLine, components⟩ := ofLine?_of_faultless lineFaultless filled
  refine ⟨pattern, compiledLine, ?_, ?_⟩
  · rw [PatternSet.pattern, compiled, List.getElem?_map, placed]
    exact List.mem_filterMap.mpr ⟨line, inside, kept⟩
  · have here := congrArg (·[position]?) components
    simp only [List.getElem?_map, found, Option.map_some, read] at here
    obtain ⟨component, there, same⟩ := Option.map_eq_some_iff.mp here
    cases same
    exact there

end PatternText

namespace PatternSet

open PatternText

/-- An unknown variable that is reported is a malformed token of the text. -/
theorem malformed_of_unknownVariable {base text name : String} {number : Nat}
    (refused : ofText base text = .error (.unknownVariable name number)) :
    ∃ token, (number, token) ∈ placedTokens (paragraphs text) ∧ IsMalformed token ∧
      name = String.ofList token := by
  rw [ofText_eq_unlessFaulty, unlessFaulty_eq_error_iff] at refused
  have member := List.mem_of_mem_head? refused
  rw [faults, List.mem_append, List.mem_append] at member
  rcases member with (single | overlapping) | unreadable
  · exact absurd rfl (ne_unknownVariable_of_mem_lineFaults single name number)
  · obtain ⟨⟨namePrefix, root⟩, _, fault⟩ := List.mem_filterMap.mp overlapping
    dsimp only at fault
    split at fault <;> cases fault
  · rw [tokenFaults_eq_placed] at unreadable
    obtain ⟨⟨line, token⟩, placed, fault⟩ := List.mem_filterMap.mp unreadable
    cases read : compilePlaced base (paragraphs text) (line, token) with
    | ok component =>
      rw [read] at fault
      cases fault
    | error other =>
      rw [read] at fault
      cases fault
      obtain ⟨opens, rfl, same, unknown⟩ := Component.of_unknownVariable_of_ofToken read
      cases named : variableName? token with
      | none =>
        rw [named, Option.getD_none] at same
        exact ⟨token, placed, ⟨opens, named⟩, same⟩
      | some found =>
        -- A name that is read from a token was entered into the table.
        rw [named, Option.getD_some] at same
        obtain ⟨line, listed, there⟩ := List.mem_flatMap.mp placed
        obtain ⟨_, inside, same⟩ := List.mem_map.mp there
        cases same
        have known := mem_names_of_token base listed inside named
        rw [← same] at known
        exact absurd known (Variables.iri?_eq_none_iff.mp unknown)

theorem sharesVariables_of_ofText {base text : String} {set : PatternSet}
    (compiled : ofText base text = .ok set) : SharesVariables base (paragraphs text) set := by
  have declared := declared_of_ofText compiled
  obtain ⟨faultless, rfl⟩ := eq_compiled_of_ofText compiled
  have tokensFaultless := (List.append_eq_nil_iff.mp faultless).2
  have names := map_fst_entries (PatternText.variableTable base (paragraphs text))
  have known : ∀ (rank : Nat) (name iri : String),
      (PatternText.variableTable base (paragraphs text)).entries[rank]? = some (name, iri) →
      iri = base ++ toString rank ∧
        (PatternText.variableTable base (paragraphs text)).iri? name = some iri := by
    intro rank name iri found
    obtain ⟨listed, rfl⟩ := exists_of_getElem?_entries found
    exact ⟨rfl, Variables.iri?_of_getElem? nodup_names listed⟩
  constructor
  case listed => exact names.trans names_eq_firsts
  case distinct =>
    change ((PatternText.variableTable base (paragraphs text)).entries.map Prod.fst).Nodup
    rw [names]
    exact nodup_names
  case ranked => exact known
  case apart =>
    rintro ⟨name, iri⟩ listed ⟨other, otherIri⟩ otherListed
    obtain ⟨rank, found⟩ := List.mem_iff_getElem?.mp listed
    obtain ⟨otherRank, otherFound⟩ := List.mem_iff_getElem?.mp otherListed
    exact Variables.name_eq_iff (known rank name iri found).2
      (known otherRank other otherIri otherFound).2
  case aligned =>
    intro line _ position
    exact StatementPattern.variableName?_tokens line.2 position
  case compiled =>
    intro number block placed line inside position token name found named
    have listed : line ∈ bodyLines (paragraphs text) :=
      List.mem_flatMap.mpr ⟨block, List.mem_of_getElem? placed, inside⟩
    have entered := mem_names_of_token base listed (List.mem_of_getElem? found) named
    obtain ⟨iri, identified⟩ := Variables.exists_iri?_of_mem nodup_names entered
    have read : compileToken base (paragraphs text) line.1 token =
        .ok (.named (String.ofList name) iri) := Component.ofToken_of_named named identified
    obtain ⟨pattern, compiledLine, member, there⟩ :=
      compiled_of_named tokensFaultless placed inside found read
    exact ⟨iri, pattern, identified, read, compiledLine, member, there⟩
  case consistent =>
    intro name iri other otherIri used otherUsed
    exact Variables.name_eq_iff (declared _ used) (declared _ otherUsed)

/-- The two passes over a text agree on its variables: a token of a closed block that names one is
compiled to it, with the identifier that the table gives to the rank of the name. Only a malformed
token is ever reported as an unknown variable. -/
theorem variables_shared (base text : String) :
    (∀ name number, ofText base text = .error (.unknownVariable name number) →
      ∃ token, (number, token) ∈ placedTokens (paragraphs text) ∧ IsMalformed token ∧
        name = String.ofList token) ∧
      ∀ set, ofText base text = .ok set → SharesVariables base (paragraphs text) set := by
  constructor
  · intro name number refused
    exact malformed_of_unknownVariable refused
  · intro set compiled
    exact sharesVariables_of_ofText compiled

/-- Variables with dots behind them, shared by two blocks; the third block is never closed. -/
def dottedVariables : String :=
  "IF A:\n<part> made #ANSWER .\n#ANSWER by <tool.>.\n\nIF B:\n<tool> fits <part>..\n\nIF C:\n<lost>"

def dottedVariablesSet : PatternSet where
  namespaces := {}
  variableTable := { base := "urn:v:", names := ["part", "tool"] }
  patterns := [
    [⟨[.named "part" "urn:v:0", .literal "made", .placeholder]⟩,
      ⟨[.placeholder, .literal "by", .named "tool" "urn:v:1"]⟩],
    [⟨[.named "tool" "urn:v:1", .literal "fits", .named "part" "urn:v:0"]⟩]]
  blocks := [
    { condition := ⟨["A"], .only⟩, pattern := 0, line := 1 },
    { condition := ⟨["B"], .only⟩, pattern := 1, line := 5 }]

theorem variables_shared_dotted :
    ofText "urn:v:" "IF A:\n<part is x .\n\n" = .error (.unknownVariable "<part" 2) ∧
      (∃ token, (2, token) ∈ placedTokens (paragraphs "IF A:\n<part is x .\n\n") ∧
        IsMalformed token ∧ "<part" = String.ofList token) ∧
      ofText "urn:v:" dottedVariables = .ok dottedVariablesSet ∧
      dottedVariablesSet.variableTable.entries.map Prod.fst = ["part", "tool"] ∧
      ∃ iri, dottedVariablesSet.variableTable.iri? "part" = some iri ∧
        Component.ofToken "<part>.".toList 6 dottedVariablesSet.namespaces
          dottedVariablesSet.variableTable = .ok (.named "part" iri) := by
  have refused : ofText "urn:v:" "IF A:\n<part is x .\n\n" =
      .error (.unknownVariable "<part" 2) := by decide +kernel
  have compiled : ofText "urn:v:" dottedVariables = .ok dottedVariablesSet := by decide +kernel
  have shared := (variables_shared "urn:v:" dottedVariables).2 _ compiled
  have block : (PatternText.blocks (paragraphs dottedVariables))[1]? = some {
      condition := ⟨["B"], .only⟩, line := 5
      body := [(6, "<tool> fits <part>..".toList)] } := by decide +kernel
  obtain ⟨iri, _, known, read, -⟩ := shared.compiled 1 _ block
    (6, "<tool> fits <part>..".toList) List.mem_cons_self 2
    "<part>.".toList "part".toList (by decide +kernel) (by decide +kernel)
  refine ⟨refused, (variables_shared "urn:v:" _).1 _ _ refused, compiled, ?_, iri, known, read⟩
  exact shared.listed.trans (by decide +kernel)

end PatternSet

end AnswerGraph
