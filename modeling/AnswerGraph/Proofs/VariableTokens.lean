import AnswerGraph.Proofs.PatternTerms
import Mathlib.Data.List.Basic

/-!
Tokens that open like variables. What such a token names is looked up in the table of the text, and
a token that names nothing is looked up as it stands. So a malformed token is refused, unless its
own text is the name of a variable: a name that starts with a bracket of its own.
-/

namespace AnswerGraph

/-- A token that opens like a variable and names none. -/
def IsMalformed (token : List Char) : Prop :=
  Text.startsWith token ['<'] = true ∧ variableName? token = none

instance (token : List Char) : Decidable (IsMalformed token) :=
  inferInstanceAs (Decidable (_ ∧ _))

theorem Variables.iri?_eq_none_iff {table : Variables} {name : String} :
    table.iri? name = none ↔ name ∉ table.names := by
  rw [iri?, Option.map_eq_none_iff, List.idxOf?_eq_none_iff]

namespace Component

variable {token : List Char} {line : Nat} {namespaces : Namespaces} {variableTable : Variables}

/-- Only a token that opens like a variable is compiled to one: to the variable that it names, or
else to the one whose name it is. -/
theorem of_named_of_ofToken {name iri : String}
    (compiled : ofToken token line namespaces variableTable = .ok (.named name iri)) :
    Text.startsWith token ['<'] = true ∧
      name = String.ofList ((variableName? token).getD token) ∧ name ∈ variableTable.names := by
  cases ofToken_eq_iff.mp compiled with
  | named opens called known =>
    refine ⟨opens, called, ?_⟩
    by_contra absent
    rw [Variables.iri?_eq_none_iff.mpr absent] at known
    cases known

theorem ofToken_of_malformed_named (malformed : IsMalformed token)
    (named : String.ofList token ∈ variableTable.names) :
    ∃ iri, ofToken token line namespaces variableTable =
      .ok (.named (String.ofList token) iri) := by
  obtain ⟨opens, nameless⟩ := malformed
  cases known : variableTable.iri? (String.ofList token) with
  | none => exact absurd named (Variables.iri?_eq_none_iff.mp known)
  | some iri => exact ⟨iri, ofToken_eq_iff.mpr (.named opens (by rw [nameless]; rfl) known)⟩

theorem ofToken_of_malformed_unnamed (malformed : IsMalformed token)
    (unnamed : String.ofList token ∉ variableTable.names) :
    ofToken token line namespaces variableTable =
      .error (.unknownVariable (String.ofList token) line) := by
  obtain ⟨opens, nameless⟩ := malformed
  have unknown := Variables.iri?_eq_none_iff.mpr unnamed
  exact ofToken_eq_iff.mpr (.unknownVariable opens (by rw [nameless]; rfl) unknown)

end Component

/-- If no read has a fault, all of them have values. -/
theorem map_eq_of_faultless {read : α → Except ε β} {members : List α}
    (faultless : members.filterMap (fun member => fault? (read member)) = []) :
    (members.filterMap fun member => (read member).toOption).map .ok = members.map read := by
  induction members with
  | nil => rfl
  | cons member rest ih =>
    cases result : read member with
    | error fault => simp [result, fault?] at faultless
    | ok value =>
      have later : rest.filterMap (fun member => fault? (read member)) = [] := by
        simpa [result, fault?] using faultless
      rw [List.filterMap_cons, result, List.map_cons, result, ← ih later]
      rfl

namespace PatternText

variable (base : String) (paragraphs : List Paragraph)

def bodyLines : List (Nat × List Char) :=
  (blocks paragraphs).flatMap RawBlock.body

/-- The tokens of the lines that are compiled, each with the number of its line. -/
def placedTokens : List (Nat × List Char) :=
  (bodyLines paragraphs).flatMap fun line =>
    (StatementPattern.tokens line.2).map (Prod.mk line.1)

def compilePlaced (placed : Nat × List Char) : Except PatternError Component :=
  compileToken base paragraphs placed.1 placed.2

theorem tokenFaults_eq_placed :
    tokenFaults base paragraphs =
      (placedTokens paragraphs).filterMap fun placed =>
        fault? (compilePlaced base paragraphs placed) := by
  simp only [tokenFaults, placedTokens, List.filterMap_flatMap, List.filterMap_map]
  rfl

/-- The components of the compiled lines are what their tokens are compiled to, in order. -/
theorem components_eq_placed :
    (compiled base paragraphs).components =
      (placedTokens paragraphs).filterMap fun placed =>
        (compilePlaced base paragraphs placed).toOption := by
  have line (line : Nat × List Char) :
      (compiledLine? base paragraphs line).toList.flatMap StatementPattern.components =
        ((StatementPattern.tokens line.2).map (Prod.mk line.1)).filterMap fun placed =>
          (compilePlaced base paragraphs placed).toOption := by
    rw [List.filterMap_map]
    change _ = (StatementPattern.tokens line.2).filterMap fun token =>
      (compileToken base paragraphs line.1 token).toOption
    cases read : (StatementPattern.tokens line.2).filterMap fun token =>
        (compileToken base paragraphs line.1 token).toOption with
    | nil => rw [compiledLine?, read]; rfl
    | cons first rest =>
      rw [compiledLine?, read]
      exact List.append_nil _
  simp only [PatternSet.components, compiled, placedTokens, bodyLines, List.flatMap_map,
    List.filterMap_flatMap, ← line]
  simp only [List.filterMap_eq_flatMap_toList, List.flatMap_assoc]

/-- The variables of a text are what the words of its blocks name. -/
theorem mem_names {name : String} :
    name ∈ (variableTable base paragraphs).names ↔
      ∃ line ∈ bodyLines paragraphs, ∃ word ∈ Text.words line.2,
        variableName? word = some name.toList := by
  change name ∈ firsts (((((bodyLines paragraphs).flatMap fun line =>
    Text.words line.2)).filterMap variableName?).map String.ofList) ↔ _
  simp only [mem_firsts, List.mem_map, List.mem_filterMap, List.mem_flatMap]
  constructor
  · rintro ⟨_, ⟨word, ⟨line, listed, inside⟩, named⟩, rfl⟩
    exact ⟨line, listed, word, inside, by rw [named, String.toList_ofList]⟩
  · rintro ⟨line, listed, word, inside, named⟩
    exact ⟨_, ⟨word, ⟨line, listed, inside⟩, named⟩, String.ofList_toList⟩

/-- A token that cannot be compiled is a fault of the text. -/
theorem mem_tokenFaults {placed : Nat × List Char} {fault : PatternError}
    (listed : placed ∈ placedTokens paragraphs)
    (refused : compilePlaced base paragraphs placed = .error fault) :
    fault ∈ tokenFaults base paragraphs := by
  rw [tokenFaults_eq_placed]
  apply List.mem_filterMap.mpr
  exact ⟨placed, listed, by rw [refused]; rfl⟩

/-- A malformed token is refused if its text is no variable's name. -/
theorem refused_of_unnamed {placed : Nat × List Char} (malformed : IsMalformed placed.2)
    (unnamed : String.ofList placed.2 ∉ (variableTable base paragraphs).names) :
    compilePlaced base paragraphs placed =
      .error (.unknownVariable (String.ofList placed.2) placed.1) :=
  Component.ofToken_of_malformed_unnamed malformed unnamed

/-- A variable is compiled from a token that names it, or from a malformed token whose text is its
name. -/
theorem source_of_compilePlaced {placed : Nat × List Char} {name iri : String}
    (read : compilePlaced base paragraphs placed = .ok (.named name iri)) :
    variableName? placed.2 = some name.toList ∨
      IsMalformed placed.2 ∧ name = String.ofList placed.2 ∧
        name ∈ (variableTable base paragraphs).names := by
  obtain ⟨opens, rfl, known⟩ := Component.of_named_of_ofToken read
  cases named : variableName? placed.2 with
  | none =>
    rw [named] at known
    exact .inr ⟨⟨opens, named⟩, rfl, known⟩
  | some found => exact .inl (congrArg some String.toList_ofList.symm)

end PatternText

namespace PatternSet

open PatternText

/-- A text with a faulty token does not compile. -/
theorem ofText_ne_ok {base text : String} {placed : Nat × List Char} {fault : PatternError}
    (listed : placed ∈ placedTokens (paragraphs text))
    (refused : compilePlaced base (paragraphs text) placed = .error fault) (set : PatternSet) :
    ofText base text ≠ .ok set := by
  intro compiled
  obtain ⟨faultless, -⟩ := eq_compiled_of_ofText compiled
  have nothing := (List.append_eq_nil_iff.mp faultless).2
  have fault := mem_tokenFaults base _ listed refused
  rw [nothing] at fault
  cases fault

/-- The components of a compiled text are what its tokens are compiled to, one for each. -/
theorem map_compilePlaced {base text : String} {set : PatternSet}
    (compiled : ofText base text = .ok set) :
    (placedTokens (paragraphs text)).map (compilePlaced base (paragraphs text)) =
      set.components.map .ok := by
  obtain ⟨faultless, rfl⟩ := eq_compiled_of_ofText compiled
  have nothing := (List.append_eq_nil_iff.mp faultless).2
  rw [tokenFaults_eq_placed] at nothing
  rw [components_eq_placed, map_eq_of_faultless nothing]

/-- A compiled text without a malformed name has no malformed token: such a token is compiled only
to the variable of its text. -/
theorem not_isMalformed_of_compiled {base text : String} {set : PatternSet}
    (compiled : ofText base text = .ok set)
    (wellNamed : ∀ name ∈ (PatternText.variableTable base (paragraphs text)).names,
      ¬ IsMalformed name.toList)
    {placed : Nat × List Char} (listed : placed ∈ placedTokens (paragraphs text)) :
    ¬ IsMalformed placed.2 := by
  intro malformed
  by_cases named :
      String.ofList placed.2 ∈ (PatternText.variableTable base (paragraphs text)).names
  · apply wellNamed _ named
    rwa [String.toList_ofList]
  · exact ofText_ne_ok listed (refused_of_unnamed base _ malformed named) set compiled

/-- A malformed token whose text is no variable's name is refused, and with it the text. One whose
text is such a name is compiled to that variable; it needs a word elsewhere that names a variable
with a bracket of its own. So if no name is malformed, no token of a compiled text is, and every
variable of it was compiled from a token that names exactly this variable. -/
theorem malformed_tokens (base text : String) :
    let names := (PatternText.variableTable base (paragraphs text)).names
    let tokens := placedTokens (paragraphs text)
    let compile := compilePlaced base (paragraphs text)
    (∀ name, name ∈ names ↔
      ∃ line ∈ bodyLines (paragraphs text), ∃ word ∈ Text.words line.2,
        variableName? word = some name.toList) ∧
      (∀ placed ∈ tokens, IsMalformed placed.2 →
        (String.ofList placed.2 ∈ names →
            ∃ iri, compile placed = .ok (.named (String.ofList placed.2) iri)) ∧
          (String.ofList placed.2 ∉ names →
            compile placed = .error (.unknownVariable (String.ofList placed.2) placed.1) ∧
              ∀ set, ofText base text ≠ .ok set)) ∧
      ∀ set, ofText base text = .ok set →
        tokens.map compile = set.components.map .ok ∧
          (∀ placed ∈ tokens, ∀ name iri, compile placed = .ok (.named name iri) →
            variableName? placed.2 = some name.toList ∨
              IsMalformed placed.2 ∧ name = String.ofList placed.2 ∧ name ∈ names) ∧
          ((∀ name ∈ names, ¬ IsMalformed name.toList) →
            (∀ placed ∈ tokens, ¬ IsMalformed placed.2) ∧
              ∀ placed ∈ tokens, ∀ name iri, compile placed = .ok (.named name iri) →
                variableName? placed.2 = some name.toList) := by
  intro names tokens compile
  refine ⟨fun name => mem_names base _, ?_, ?_⟩
  · intro placed listed malformed
    constructor
    · intro named
      exact Component.ofToken_of_malformed_named malformed named
    · intro unnamed
      have refused := refused_of_unnamed base _ malformed unnamed
      exact ⟨refused, ofText_ne_ok listed refused⟩
  · intro set compiled
    refine ⟨map_compilePlaced compiled, fun placed _ name iri => source_of_compilePlaced base _,
      fun wellNamed => ?_⟩
    have wellFormed : ∀ placed ∈ tokens, ¬ IsMalformed placed.2 :=
      fun placed listed => not_isMalformed_of_compiled compiled wellNamed listed
    refine ⟨wellFormed, fun placed listed name iri read => ?_⟩
    rcases source_of_compilePlaced base _ read with named | ⟨malformed, -⟩
    · exact named
    · exact absurd malformed (wellFormed placed listed)

/-- An unterminated variable, on a line of its own. -/
def unterminated : String := "IF A:\n<part is #ANSWER .\n\n"

/-- Well-formed variables, one of them with dots at both places where they do not count. -/
def terminated : String := "IF A:\n<<part>> is <tool.>.\n\n"

theorem malformed_tokens_unterminated :
    let base := Variables.defaultBase
    let names (text : String) := (PatternText.variableTable base (paragraphs text)).names
    (IsMalformed "<part".toList ∧
        (2, "<part".toList) ∈ placedTokens (paragraphs unterminated) ∧
        "<part" ∉ names unterminated ∧
        ∀ set, ofText base unterminated ≠ .ok set) ∧
      (∀ name ∈ names terminated, ¬ IsMalformed name.toList) ∧
      ∀ placed ∈ placedTokens (paragraphs terminated), ¬ IsMalformed placed.2 := by
  intro base names
  have malformed : IsMalformed "<part".toList := by decide
  have listed : (2, "<part".toList) ∈ placedTokens (paragraphs unterminated) := by decide +kernel
  have unnamed : "<part" ∉ names unterminated := by decide +kernel
  obtain ⟨-, refused, -⟩ := malformed_tokens base unterminated
  have refusal := (refused _ listed malformed).2 unnamed
  have wellNamed : ∀ name ∈ names terminated, ¬ IsMalformed name.toList := by decide +kernel
  obtain ⟨set, compiled⟩ : ∃ set, ofText base terminated = .ok set :=
    exists_ok_iff.mpr (by decide +kernel)
  obtain ⟨-, -, accepted⟩ := malformed_tokens base terminated
  exact ⟨⟨malformed, listed, unnamed, refusal.2⟩, wellNamed,
    ((accepted set compiled).2.2 wellNamed).1⟩

/-- An unterminated variable beside one whose name starts with a bracket. -/
def bracketedName : String := "IF A:\n<<part> is #ANSWER .\n<part is #ANSWER .\n\n"

/-- The unterminated token on the third line is compiled to the variable of the second. -/
theorem malformed_token_compiled :
    (3, "<part".toList) ∈ placedTokens (paragraphs bracketedName) ∧
      IsMalformed "<part".toList ∧
      ofText Variables.defaultBase bracketedName = .ok {
        namespaces := {}
        variableTable := { base := Variables.defaultBase, names := ["<part"] }
        patterns := [[
          ⟨[.named "<part" "http://example_data.org/variable/0", .literal "is", .placeholder]⟩,
          ⟨[.named "<part" "http://example_data.org/variable/0", .literal "is", .placeholder]⟩]]
        blocks := [{ condition := ⟨["A"], .only⟩, pattern := 0, line := 1 }] } := by
  refine ⟨?_, by decide, ?_⟩
  · decide +kernel
  · decide +kernel

end PatternSet

end AnswerGraph
