import AnswerGraph.Proofs.Keyed
import AnswerGraph.Proofs.PatternGrammar
import AnswerGraph.Proofs.TextSearch

/-!
Where the components of a compiled text come from. Roots are declared and identifiers of variables
come from the table of the text, wherever the declaration or the first use stands. No root overlaps
the base of the variables, so that no prefixed name can be the identifier of a variable.
-/

namespace AnswerGraph

namespace Component

/-- What a token is compiled to or refused for, with one case for each kind of token. -/
inductive Compiles (token : List Char) (line : Nat) (namespaces : Namespaces)
    (variableTable : Variables) : Except PatternError Component → Prop
  | named {name iri : String} (opens : Text.startsWith token ['<'] = true)
      (called : name = String.ofList ((variableName? token).getD token))
      (known : variableTable.iri? name = some iri) :
      Compiles token line namespaces variableTable (.ok (.named name iri))
  | unknownVariable {name : String} (opens : Text.startsWith token ['<'] = true)
      (called : name = String.ofList ((variableName? token).getD token))
      (unknown : variableTable.iri? name = none) :
      Compiles token line namespaces variableTable (.error (.unknownVariable name line))
  | namespaced {namePrefix name : List Char} {root : String}
      (unopened : Text.startsWith token ['<'] = false)
      (cut : Text.cutAtChar? ':' token = some (namePrefix, name))
      (known : namespaces.root? (String.ofList namePrefix) = some root) :
      Compiles token line namespaces variableTable (.ok (.namespaced root (String.ofList name)))
  | unknownNamespace {namePrefix name : List Char}
      (unopened : Text.startsWith token ['<'] = false)
      (cut : Text.cutAtChar? ':' token = some (namePrefix, name))
      (unknown : namespaces.root? (String.ofList namePrefix) = none) :
      Compiles token line namespaces variableTable
        (.error (.unknownNamespace (String.ofList namePrefix) line))
  | placeholder (unopened : Text.startsWith token ['<'] = false)
      (whole : Text.cutAtChar? ':' token = none) (marker : String.ofList token = answerMarker) :
      Compiles token line namespaces variableTable (.ok .placeholder)
  | literal (unopened : Text.startsWith token ['<'] = false)
      (whole : Text.cutAtChar? ':' token = none) (other : String.ofList token ≠ answerMarker) :
      Compiles token line namespaces variableTable (.ok (.literal (String.ofList token)))

section

variable {token : List Char} {line : Nat} {namespaces : Namespaces} {variableTable : Variables}

theorem compiles_ofToken :
    Compiles token line namespaces variableTable
      (ofToken token line namespaces variableTable) := by
  rw [ofToken]
  split
  · next opens =>
    dsimp only
    split
    · next known => exact .named opens rfl known
    · next unknown => exact .unknownVariable opens rfl unknown
  · next closed =>
    have unopened := Bool.of_not_eq_true closed
    split
    · next cut =>
      split
      · next known => exact .namespaced unopened cut known
      · next unknown => exact .unknownNamespace unopened cut unknown
    · next whole =>
      split
      · next marker => exact .placeholder unopened whole marker
      · next other => exact .literal unopened whole other

theorem ofToken_eq_iff {result : Except PatternError Component} :
    ofToken token line namespaces variableTable = result ↔
      Compiles token line namespaces variableTable result := by
  constructor
  · rintro rfl
    exact compiles_ofToken
  · intro compiles
    cases compiles with
    | named opens called known =>
      subst called
      simp only [ofToken, opens, if_true, known]
    | unknownVariable opens called unknown =>
      subst called
      simp only [ofToken, opens, if_true, unknown]
    | namespaced unopened cut known => simp [ofToken, unopened, cut, known]
    | unknownNamespace unopened cut unknown => simp [ofToken, unopened, cut, unknown]
    | placeholder unopened whole marker => simp [ofToken, unopened, whole, marker]
    | literal unopened whole other => simp [ofToken, unopened, whole, other]

end

/-- A component that a text can hold: its root is declared, its variable is in the table. -/
def Declared (namespaces : Namespaces) (variableTable : Variables) : Component → Prop
  | literal _ => True
  | namespaced root _ => ∃ namePrefix, (namePrefix, root) ∈ namespaces.entries
  | named name iri => variableTable.iri? name = some iri
  | resource _ => False
  | placeholder => True

theorem declared_of_ofToken {token : List Char} {line : Nat} {namespaces : Namespaces}
    {variableTable : Variables} {component : Component}
    (compiled : ofToken token line namespaces variableTable = .ok component) :
    component.Declared namespaces variableTable := by
  cases ofToken_eq_iff.mp compiled with
  | named _ _ known => exact known
  | namespaced _ _ known => exact ⟨_, Keyed.mem_of_lookup known⟩
  | placeholder => trivial
  | literal => trivial

end Component

/-- A variable of the table has the identifier of its rank. -/
theorem Variables.exists_rank {table : Variables} {name iri : String}
    (known : table.iri? name = some iri) : ∃ rank, iri = table.iriAt rank := by
  obtain ⟨rank, _, same⟩ := Option.map_eq_some_iff.mp known
  exact ⟨rank, same.symm⟩

namespace PatternSet

/-- The components of all lines of all patterns. -/
def components (set : PatternSet) : List Component :=
  set.patterns.flatMap fun pattern => pattern.flatMap StatementPattern.components

variable {base text : String} {set : PatternSet}

theorem components_of_compiledLine? {paragraphs : List Paragraph} {line : Nat × List Char}
    {pattern : StatementPattern}
    (compiled : PatternText.compiledLine? base paragraphs line = some pattern) :
    pattern.components = (StatementPattern.tokens line.2).filterMap fun token =>
      (PatternText.compileToken base paragraphs line.1 token).toOption := by
  rw [PatternText.compiledLine?] at compiled
  split at compiled <;> cases compiled
  rfl

theorem declared_of_compiled (paragraphs : List Paragraph) :
    ∀ component ∈ (PatternText.compiled base paragraphs).components,
      component.Declared (PatternText.namespaces paragraphs)
        (PatternText.variableTable base paragraphs) := by
  intro component member
  simp only [components, PatternText.compiled, List.mem_flatMap, List.mem_map] at member
  obtain ⟨_, ⟨block, _, rfl⟩, pattern, kept, inside⟩ := member
  obtain ⟨line, _, made⟩ := List.mem_filterMap.mp kept
  rw [components_of_compiledLine? made] at inside
  obtain ⟨token, _, found⟩ := List.mem_filterMap.mp inside
  cases read : PatternText.compileToken base paragraphs line.1 token with
  | error fault =>
    rw [read] at found
    cases found
  | ok value =>
    rw [read] at found
    cases found
    exact Component.declared_of_ofToken read

/-- A text that compiles has no faults, and its paragraphs say what it compiles to. -/
theorem eq_compiled_of_ofText (compiled : ofText base text = .ok set) :
    PatternText.faults base (PatternText.paragraphs text) = [] ∧
      set = PatternText.compiled base (PatternText.paragraphs text) := by
  rw [ofText_eq_unlessFaulty] at compiled
  cases faults : PatternText.faults base (PatternText.paragraphs text) with
  | nil =>
    rw [faults] at compiled
    exact ⟨rfl, (Except.ok.inj compiled).symm⟩
  | cons fault more =>
    rw [faults] at compiled
    cases compiled

theorem base_of_ofText (compiled : ofText base text = .ok set) :
    set.variableTable.base = base := by
  obtain ⟨-, rfl⟩ := eq_compiled_of_ofText compiled
  rfl

/-- The components of a compiled text are declared in its own tables. -/
theorem declared_of_ofText (compiled : ofText base text = .ok set) :
    ∀ component ∈ set.components, component.Declared set.namespaces set.variableTable := by
  obtain ⟨-, rfl⟩ := eq_compiled_of_ofText compiled
  exact declared_of_compiled _

/-- A text that compiles declares no root that overlaps the base. -/
theorem not_overlaps_of_ofText (compiled : ofText base text = .ok set) :
    ∀ entry ∈ set.namespaces.entries, overlaps entry.2 base = false := by
  obtain ⟨faultless, rfl⟩ := eq_compiled_of_ofText compiled
  have apart := (List.append_eq_nil_iff.mp (List.append_eq_nil_iff.mp faultless).1).2
  intro entry member
  simpa using List.filterMap_eq_nil_iff.mp apart entry member

theorem overlaps_iff {root base : String} :
    overlaps root base = true ↔ base.toList <+: root.toList ∨ root.toList <+: base.toList := by
  simp only [overlaps, Bool.or_eq_true, Text.startsWith_iff]

/-- Texts that start with a root and with the base can only be equal if these overlap: of two
prefixes of one text, one is a prefix of the other. -/
theorem overlaps_of_append_eq {root base more name : String} (same : base ++ more = root ++ name) :
    overlaps root base = true := by
  have texts : base.toList ++ more.toList = root.toList ++ name.toList := by
    simpa using congrArg String.toList same
  have first : base.toList <+: root.toList ++ name.toList := ⟨more.toList, texts⟩
  have second : root.toList <+: root.toList ++ name.toList := List.prefix_append _ _
  exact overlaps_iff.mpr (List.prefix_or_prefix_of_prefix first second)

/-- No identifier under the base of a compiled text is a declared root with some name behind it, so
a variable never stands for the same term as a prefixed name. -/
theorem variables_apart (compiled : ofText base text = .ok set) :
    set.variableTable.base = base ∧
      (∀ namePrefix root, (namePrefix, root) ∈ set.namespaces.entries →
        ∀ rank name, set.variableTable.iriAt rank ≠ root ++ name) ∧
      ∀ variableName iri root name,
        .named variableName iri ∈ set.components → .namespaced root name ∈ set.components →
          (Component.named variableName iri).term? ≠ (Component.namespaced root name).term? := by
  have based := base_of_ofText compiled
  have apart : ∀ namePrefix root, (namePrefix, root) ∈ set.namespaces.entries →
      ∀ rank name, set.variableTable.iriAt rank ≠ root ++ name := by
    intro namePrefix root declared rank name same
    rw [Variables.iriAt, based] at same
    have apart := not_overlaps_of_ofText compiled _ declared
    rw [overlaps_of_append_eq same] at apart
    cases apart
  refine ⟨based, apart, fun variableName iri root name variableUsed nameUsed same => ?_⟩
  obtain ⟨rank, rfl⟩ := Variables.exists_rank (declared_of_ofText compiled _ variableUsed)
  obtain ⟨namePrefix, declared⟩ := declared_of_ofText compiled _ nameUsed
  refine apart namePrefix root declared rank name ?_
  simpa only [Component.term?, Option.some.injEq, Term.iri.injEq] using same

/-- A text whose prefix is declared behind its use, with a root that differs from the base of the
variables in its last character only. -/
def neighbouringText : String :=
  "IF A:\n<part> ex:0 #ANSWER .\n\nNAMESPACES\nex: <http://example.org/x>\n"

def neighbouringSet : PatternSet where
  namespaces := ⟨[("ex", "http://example.org/x")]⟩
  variableTable := { base := "http://example.org/v", names := ["part"] }
  patterns := [[⟨[.named "part" "http://example.org/v0", .namespaced "http://example.org/x" "0",
    .placeholder]⟩]]
  blocks := [{ condition := ⟨["A"], .only⟩, pattern := 0, line := 1 }]

theorem variables_apart_neighbouring :
    ofText "http://example.org/v" neighbouringText = .ok neighbouringSet ∧
      neighbouringSet.variableTable.iriAt 0 ≠ "http://example.org/x" ++ "0" ∧
      (Component.named "part" "http://example.org/v0").term? ≠
        (Component.namespaced "http://example.org/x" "0").term? := by
  have compiled : ofText "http://example.org/v" neighbouringText = .ok neighbouringSet := by
    decide +kernel
  obtain ⟨-, names, terms⟩ := variables_apart compiled
  refine ⟨compiled, names "ex" _ ?_ 0 "0", terms "part" _ _ _ ?_ ?_⟩
  · decide
  · decide
  · decide

end PatternSet

end AnswerGraph
