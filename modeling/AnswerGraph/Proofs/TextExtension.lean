import AnswerGraph.Proofs.VariableAgreement

/-!
Texts with more behind them. Behind a blank line no block is open and no declarations are expected,
so what follows it is cut into paragraphs of its own. Declarations and names of later paragraphs go
to the end of the tables, where they change nothing that was found before: all that the first part
compiles to is kept, with the same numbers.
-/

namespace AnswerGraph

/-! ## Paragraphs of a longer text -/

namespace Paragraph

theorem ofLines_blanks {blanks : List (Nat × List Char)}
    (blank : ∀ line ∈ blanks, isBlankLine line = true) (rest : List (Nat × List Char)) :
    ofLines (blanks ++ rest) = ofLines rest := by
  induction blanks with
  | nil => rfl
  | cons line more ih =>
    rw [List.cons_append, ofLines_blank (blank line List.mem_cons_self)]
    exact ih fun other member => blank other (List.mem_cons_of_mem line member)

/-- Lines of which the last is blank are all blank, or they begin with a closed paragraph. -/
theorem blank_or_closed {lines : List (Nat × List Char)}
    (ends : ∀ last ∈ lines.getLast?, isBlankLine last = true) :
    (∀ line ∈ lines, isBlankLine line = true) ∨
      ∃ blanks run blank more, lines = blanks ++ (run ++ blank :: more) ∧
        (∀ line ∈ blanks, isBlankLine line = true) ∧ run ≠ [] ∧
        (∀ line ∈ run, isBlankLine line = false) ∧ isBlankLine blank = true := by
  induction lines with
  | nil => exact .inl fun _ member => absurd member List.not_mem_nil
  | cons line rest ih =>
    have endsRest : ∀ last ∈ rest.getLast?, isBlankLine last = true := by
      intro last member
      apply ends
      rw [List.getLast?_cons, member, Option.getD_some]
      rfl
    cases kind : isBlankLine line with
    | true =>
      rcases ih endsRest with blank | ⟨blanks, run, blank, more, rfl, allBlank, found⟩
      · exact .inl (List.forall_mem_cons.mpr ⟨kind, blank⟩)
      · exact .inr ⟨line :: blanks, run, blank, more, rfl,
          List.forall_mem_cons.mpr ⟨kind, allBlank⟩, found⟩
    | false =>
      -- The line belongs to the run, which ends with the first blank line behind it.
      have alone : ∀ other ∈ [line], isBlankLine other = false :=
        List.forall_mem_singleton.mpr kind
      right
      rcases ih endsRest with blank | ⟨blanks, run, blank, more, rfl, allBlank, found⟩
      · cases rest with
        | nil =>
          have blank := ends line rfl
          rw [kind] at blank
          cases blank
        | cons first more =>
          exact ⟨[], [line], first, more, rfl, List.forall_mem_nil _, List.cons_ne_nil _ _, alone,
            blank first List.mem_cons_self⟩
      · cases blanks with
        | nil =>
          obtain ⟨_, visible, blank⟩ := found
          exact ⟨[], line :: run, _, more, rfl, List.forall_mem_nil _, List.cons_ne_nil _ _,
            List.forall_mem_cons.mpr ⟨kind, visible⟩, blank⟩
        | cons first others =>
          exact ⟨[], [line], first, _, rfl, List.forall_mem_nil _, List.cons_ne_nil _ _, alone,
            allBlank first List.mem_cons_self⟩

/-- Behind a blank line the paragraphs begin anew. -/
theorem ofLines_append {front : List (Nat × List Char)}
    (ends : ∀ last ∈ front.getLast?, isBlankLine last = true) (rest : List (Nat × List Char)) :
    ofLines (front ++ rest) = ofLines front ++ ofLines rest := by
  induction counted : front.length using Nat.strong_induction_on generalizing front with
  | _ count ih =>
    rcases blank_or_closed ends with
      blank | ⟨blanks, run, blank, more, rfl, allBlank, filled, visible, isBlank⟩
    · have nothing : ofLines front = [] := by
        rw [← List.append_nil front, ofLines_blanks blank]
        exact ofLines_eq_nil rfl
      rw [ofLines_blanks blank, nothing, List.nil_append]
    · have first (lines : List (Nat × List Char)) : ofLines (blanks ++ (run ++ blank :: lines)) =
          { lines := run, closed := true } :: ofLines lines := by
        rw [ofLines_blanks allBlank, ofLines_run filled visible isBlank]
      have shorter : more.length < count := by
        rw [← counted]
        simp only [List.length_append, List.length_cons]
        omega
      have endsMore : ∀ last ∈ more.getLast?, isBlankLine last = true := by
        intro last member
        apply ends
        simp only [List.getLast?_append, List.getLast?_cons, Option.mem_def.mp member]
        rfl
      calc ofLines (blanks ++ (run ++ blank :: more) ++ rest)
          = ofLines (blanks ++ (run ++ blank :: (more ++ rest))) := by
            rw [List.append_assoc, List.append_assoc, List.cons_append]
        _ = { lines := run, closed := true } :: (ofLines more ++ ofLines rest) := by
            rw [first, ih more.length shorter endsMore rfl]
        _ = ofLines (blanks ++ (run ++ blank :: more)) ++ ofLines rest := by
            rw [first, List.cons_append]

end Paragraph

/-- Empty, or ended by a line feed with a blank line before it. -/
def EndsBlank (text : List Char) : Prop :=
  text = [] ∨ text.getLast? = some '\n' ∧
    ∃ line, (Text.lines text).getLast? = some line ∧ Text.isAllBlank line = true

instance (text : List Char) : Decidable (EndsBlank text) :=
  decidable_of_iff (text = [] ∨ text.getLast? = some '\n' ∧
    ∃ line ∈ (Text.lines text).getLast?, Text.isAllBlank line = true) Iff.rfl

theorem EndsBlank.lines_append {text : List Char} (ends : EndsBlank text) (rest : List Char) :
    Text.lines (text ++ rest) = Text.lines text ++ Text.lines rest := by
  rcases ends with rfl | ⟨feed, -⟩
  · rfl
  · obtain ⟨init, rfl⟩ := List.getLast?_eq_some_iff.mp feed
    rw [List.append_assoc, List.singleton_append, Text.lines_append_feed]

theorem EndsBlank.last_blank {text : List Char} (ends : EndsBlank text) :
    ∀ last ∈ (numberedFrom 1 (Text.lines text)).getLast?, isBlankLine last = true := by
  intro last member
  have listed : last.2 ∈ (Text.lines text).getLast? := by
    rw [← map_snd_numberedFrom 1 (Text.lines text), List.getLast?_map, member]
    rfl
  rcases ends with rfl | ⟨-, line, found, blank⟩
  · cases listed
  · cases found.symm.trans listed
    exact blank

/-- What is written behind a blank line makes paragraphs of its own. -/
theorem PatternText.paragraphs_append {first : String} (ends : EndsBlank first.toList)
    (second : String) : ∃ more, paragraphs (first ++ second) = paragraphs first ++ more := by
  let behind := numberedFrom (1 + (Text.lines first.toList).length) (Text.lines second.toList)
  refine ⟨Paragraph.ofLines behind, ?_⟩
  rw [paragraphs, String.toList_append, ends.lines_append, numberedFrom_append,
    Paragraph.ofLines_append ends.last_blank]
  rfl

/-! ## Longer tables -/

namespace Namespaces

theorem root?_of_longer {table longer : Namespaces} (longerTable : table.entries <+: longer.entries)
    {namePrefix root : String} (found : table.root? namePrefix = some root) :
    longer.root? namePrefix = some root := by
  obtain ⟨more, entries⟩ := longerTable
  rw [root?] at found ⊢
  rw [← entries, List.lookup_append, found]
  rfl

end Namespaces

namespace Variables

/-- A table with more names behind those of another, and identifiers under the same base. -/
structure Extends (table longer : Variables) : Prop where
  base : longer.base = table.base
  names : table.names <+: longer.names

variable {table longer : Variables}

theorem Extends.iri? (extended : Extends table longer) {name iri : String}
    (found : table.iri? name = some iri) : longer.iri? name = some iri := by
  obtain ⟨base, more, names⟩ := extended
  obtain ⟨rank, ranked, rfl⟩ := Option.map_eq_some_iff.mp found
  obtain ⟨inside, named, first⟩ := List.idxOf?_eq_some_iff.mp ranked
  have still : longer.names.idxOf? name = some rank := by
    rw [← names]
    refine List.idxOf?_eq_some_iff.mpr ⟨?_, ?_, ?_⟩
    · exact Nat.lt_of_lt_of_le inside (List.length_append ▸ Nat.le_add_right _ _)
    · rw [List.getElem_append_left inside]
      exact named
    · intro earlier before
      rw [List.getElem_append_left (before.trans inside)]
      exact first earlier before
  rw [Variables.iri?, still, Option.map_some, iriAt, iriAt, base]

theorem Extends.entries (extended : Extends table longer) : table.entries <+: longer.entries := by
  obtain ⟨base, more, names⟩ := extended
  have written : (fun entry : String × Nat => (entry.1, longer.iriAt entry.2)) =
      fun entry => (entry.1, table.iriAt entry.2) := by
    simp [iriAt, base]
  rw [Variables.entries, Variables.entries, written, ← names, List.zipIdx_append, List.map_append]
  exact List.prefix_append _ _

end Variables

/-- A token that compiles with some tables compiles to the same with longer ones. -/
theorem Component.ofToken_of_longer {token : List Char} {line : Nat}
    {namespaces longerNamespaces : Namespaces} {variableTable longerTable : Variables}
    (roots : namespaces.entries <+: longerNamespaces.entries)
    (extended : variableTable.Extends longerTable) {component : Component}
    (compiled : ofToken token line namespaces variableTable = .ok component) :
    ofToken token line longerNamespaces longerTable = .ok component := by
  rw [ofToken_eq_iff] at compiled ⊢
  cases compiled with
  | named opens called known => exact .named opens called (extended.iri? known)
  | namespaced unopened cut known =>
    exact .namespaced unopened cut (Namespaces.root?_of_longer roots known)
  | placeholder unopened whole marker => exact .placeholder unopened whole marker
  | literal unopened whole other => exact .literal unopened whole other

namespace PatternText

variable (base : String) (front more : List Paragraph)

theorem entries_append :
    (namespaces front).entries <+: (namespaces (front ++ more)).entries := by
  simp only [namespaces, List.flatMap_append, List.map_append]
  exact List.prefix_append _ _

theorem blocks_append : blocks (front ++ more) = blocks front ++ blocks more :=
  List.filterMap_append

theorem variableTable_append :
    (variableTable base front).Extends (variableTable base (front ++ more)) where
  base := rfl
  names := by
    rw [names_eq_firsts, names_eq_firsts, bodyLines, bodyLines, blocks_append,
      List.flatMap_append, List.flatMap_append, firsts, firsts, firstsFrom_append]
    exact List.prefix_append _ _

/-- A line without faults is compiled as it was. -/
theorem compiledLine?_append {line : Nat × List Char}
    (faultless : lineTokenFaults base front line = []) :
    compiledLine? base (front ++ more) line = compiledLine? base front line := by
  have alike : ∀ token ∈ StatementPattern.tokens line.2,
      (compileToken base (front ++ more) line.1 token).toOption =
        (compileToken base front line.1 token).toOption := by
    intro token inside
    cases read : compileToken base front line.1 token with
    | error fault =>
      have fault := List.filterMap_eq_nil_iff.mp faultless token inside
      rw [read] at fault
      cases fault
    | ok component =>
      have again : compileToken base (front ++ more) line.1 token = .ok component :=
        Component.ofToken_of_longer (entries_append front more)
          (variableTable_append base front more) read
      rw [again]
  rw [compiledLine?, compiledLine?, List.filterMap_congr alike]

end PatternText

/-- A set whose tables, blocks and patterns begin with those of another. -/
structure PatternSet.Extends (set longer : PatternSet) : Prop where
  namespaces : set.namespaces.entries <+: longer.namespaces.entries
  variableTable : set.variableTable.entries <+: longer.variableTable.entries
  blocks : set.blocks <+: longer.blocks
  patterns : set.patterns <+: longer.patterns
  registered : ∀ key, set.patternsFor key <+: longer.patternsFor key

theorem PatternText.compiled_append (base : String) (front more : List Paragraph)
    (faultless : tokenFaults base front = []) :
    (compiled base front).Extends (compiled base (front ++ more)) := by
  have placed : (compiled base front).blocks <+: (compiled base (front ++ more)).blocks := by
    simp only [compiled, blocks_append, List.zipIdx_append, List.map_append]
    exact List.prefix_append _ _
  constructor
  case namespaces => exact entries_append front more
  case variableTable => exact (variableTable_append base front more).entries
  case blocks => exact placed
  case patterns =>
    have kept : (blocks front).map (fun block =>
          block.body.filterMap (compiledLine? base (front ++ more))) =
        (blocks front).map fun block => block.body.filterMap (compiledLine? base front) := by
      apply List.map_congr_left
      intro block listed
      apply List.filterMap_congr
      intro line inside
      rw [tokenFaults_eq, List.flatMap_eq_nil_iff] at faultless
      exact compiledLine?_append base front more
        (List.flatMap_eq_nil_iff.mp (faultless block listed) line inside)
    simp only [compiled, blocks_append, List.map_append, kept]
    exact List.prefix_append _ _
  case registered =>
    intro key
    obtain ⟨behind, same⟩ := placed
    rw [PatternSet.patternsFor, PatternSet.patternsFor, ← same, List.flatMap_append]
    exact List.prefix_append _ _

/-- A text that ends with a blank line keeps all that it compiles to when more is written behind it:
the tables, the blocks with their numbers and lines, the compiled patterns, and under each key the
patterns that were registered. -/
theorem PatternSet.extends_of_append {base first second : String} {set longer : PatternSet}
    (ends : EndsBlank first.toList) (compiled : ofText base first = .ok set)
    (compiledLonger : ofText base (first ++ second) = .ok longer) : set.Extends longer := by
  obtain ⟨more, paragraphs⟩ := PatternText.paragraphs_append ends second
  obtain ⟨faultless, rfl⟩ := eq_compiled_of_ofText compiled
  obtain ⟨-, rfl⟩ := eq_compiled_of_ofText compiledLonger
  rw [paragraphs]
  exact PatternText.compiled_append base _ more (List.append_eq_nil_iff.mp faultless).2

/-- A pattern with two variables; a blank line closes it. -/
def PatternSet.toolText : String :=
  "NAMESPACE\nex: <urn:ex:>\n\nIF A:\n#ANSWER ex:by <tool> .\n<tool> ex:fits <part> .\n \n"

def PatternSet.toolSet : PatternSet where
  namespaces := ⟨[("ex", "urn:ex:")]⟩
  variableTable := { base := "urn:v:", names := ["tool", "part"] }
  patterns := [
    [⟨[.placeholder, .namespaced "urn:ex:" "by", .named "tool" "urn:v:0"]⟩,
      ⟨[.named "tool" "urn:v:0", .namespaced "urn:ex:" "fits", .named "part" "urn:v:1"]⟩]]
  blocks := [{ condition := ⟨["A"], .only⟩, pattern := 0, line := 4 }]

/-- Another prefix, and a pattern under a known key with a known and a new variable. -/
def PatternSet.ownerText : String :=
  "NAMESPACE\nown: <urn:own:>\n\nIF B AND A:\n<owner> own:has <part>. .\n\n"

def PatternSet.toolOwnerSet : PatternSet where
  namespaces := ⟨[("ex", "urn:ex:"), ("own", "urn:own:")]⟩
  variableTable := { base := "urn:v:", names := ["tool", "part", "owner"] }
  patterns := toolSet.patterns ++
    [[⟨[.named "owner" "urn:v:2", .namespaced "urn:own:" "has", .named "part" "urn:v:1"]⟩]]
  blocks := toolSet.blocks ++ [{ condition := ⟨["B", "A"], .and⟩, pattern := 1, line := 11 }]

theorem PatternSet.extends_of_append_owner :
    EndsBlank toolText.toList ∧ ofText "urn:v:" toolText = .ok toolSet ∧
      ofText "urn:v:" (toolText ++ ownerText) = .ok toolOwnerSet ∧
      toolSet.Extends toolOwnerSet := by
  have ends : EndsBlank toolText.toList := by decide +kernel
  have compiled : ofText "urn:v:" toolText = .ok toolSet := by decide +kernel
  have compiledLonger : ofText "urn:v:" (toolText ++ ownerText) = .ok toolOwnerSet := by
    decide +kernel
  exact ⟨ends, compiled, compiledLonger, extends_of_append ends compiled compiledLonger⟩

end AnswerGraph
