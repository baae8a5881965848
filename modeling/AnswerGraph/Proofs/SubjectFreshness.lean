import AnswerGraph.Proofs.IdentifierCollision
import AnswerGraph.Proofs.StatementOrigin

/-!
When minted subjects are fresh. Roots are only kept apart from the base of the variables, so a
prefixed name can be a subject: a root has such a name exactly if it is a start of the base of the
subjects, or that base with a number behind it. If no declared root is of this kind, and no variable
is a subject either, whatever mentions a subject was said by the binding of its own detail.
-/

namespace AnswerGraph

/-! ## Names that are subjects -/

namespace Minter

theorem toList_iriAt (base : String) (number : Nat) :
    (iriAt base number).toList = base.toList ++ numeral number :=
  String.toList_append

theorem iriAt_injective {base : String} {first second : Nat}
    (same : iriAt base first = iriAt base second) : first = second :=
  append_number_injective same

/-- A subject ends in a digit, so it is none of the names that the vocabulary fixes. -/
theorem iriAt_ne_rdfsLabel (base : String) (number : Nat) :
    iriAt base number ≠ Vocabulary.rdfsLabel := by
  intro same
  have ends := congrArg (List.getLast? ∘ String.toList) same
  simp only [Function.comp_apply, toList_iriAt,
    List.getLast?_append_of_ne_nil _ (numeral_ne_nil number)] at ends
  have last : 'l' ∈ numeral number := List.mem_of_getLast? ends
  have digit := isDigit_of_mem_numeral last
  cases digit

end Minter

/-- A root that a name can complete to an identifier under a base. -/
def ReachesNumber (root base : String) : Prop :=
  root.toList <+: base.toList ∨ ∃ number : Nat, root = base ++ toString number

/-- The names under such a root: if the root is a start of the base, the rest of the base with zero
behind it is one; if the root is the base with a number behind it, the empty name is one. -/
theorem reachesNumber_iff {root base : String} :
    ReachesNumber root base ↔
      ∃ (name : String) (number : Nat), root ++ name = base ++ toString number := by
  constructor
  · rintro (⟨rest, longer⟩ | ⟨number, rfl⟩)
    · refine ⟨String.ofList (rest ++ numeral 0), 0, String.toList_inj.mp ?_⟩
      rw [String.toList_append, String.toList_append, String.toList_ofList, ← longer,
        List.append_assoc]
      rfl
    · exact ⟨"", number, by simp⟩
  · rintro ⟨name, number, same⟩
    have texts : root.toList ++ name.toList = base.toList ++ numeral number := by
      simpa [numeral] using congrArg String.toList same
    rcases List.append_eq_append_iff.mp texts with ⟨rest, longer, -⟩ | ⟨digits, longer, cut⟩
    · exact .inl ⟨rest, longer.symm⟩
    · -- The root goes on behind the base with the first digits of the number.
      by_cases begun : digits = []
      · subst begun
        exact .inl ⟨[], by simpa using longer⟩
      · right
        by_cases done : name.toList = []
        · refine ⟨number, String.toList_inj.mp ?_⟩
          rw [done, List.append_nil] at cut
          rw [longer, ← cut, String.toList_append]
          rfl
        · obtain ⟨first, -, rfl⟩ := exists_numeral_of_append cut begun done
          refine ⟨first, String.toList_inj.mp ?_⟩
          rw [longer, String.toList_append]
          rfl

theorem ExtendsByNumber.isPrefix {longer base : String} (longerBase : ExtendsByNumber longer base) :
    base.toList <+: longer.toList := by
  obtain ⟨number, -, rfl⟩ := longerBase
  exact ⟨numeral number, String.toList_append.symm⟩

/-- No name that a text can write is a subject: no declared root can be completed to one, and
neither base of the identifiers is the other with a number behind it. -/
structure SubjectsApart (bases : Identifiers) (set : PatternSet) : Prop where
  roots : ∀ entry ∈ set.namespaces.entries, ¬ ReachesNumber entry.2 bases.subjectBase
  identifiers : ¬ (ExtendsByNumber bases.subjectBase bases.variableBase ∨
    ExtendsByNumber bases.variableBase bases.subjectBase)

/-! ## Statements that mention a subject -/

section

variable {base : String} {set : PatternSet} {steps : List BindingStep} {statement : Statement}

/-- If no compiled component stands for a subject, only the binding of its detail mentions it. -/
theorem Origin.eq_detail_of_mentions {origin : Origin} {number : Nat}
    (apart : ∀ component ∈ set.components,
      component.term? ≠ some (.iri (Minter.iriAt base number)))
    (emitted : origin.Emits base set steps statement)
    (mentioned : Term.iri (Minter.iriAt base number) ∈ statement.terms) :
    origin = .detail number := by
  cases origin with
  | fixed pattern =>
    obtain ⟨component, used, stands⟩ :=
      PatternSet.exists_component_of_resolved emitted.2 mentioned
    exact absurd stands (apart component used)
  | detail own =>
    obtain ⟨bound, -, about⟩ := emitted
    rcases PatternSet.of_statementsAbout about mentioned with ⟨component, used, stands⟩ | added
    · exact absurd stands (apart component used)
    · simp only [List.mem_cons, Term.iri.injEq, reduceCtorEq, List.not_mem_nil, or_false] at added
      rcases added with same | label
      · rw [Minter.iriAt_injective same]
      · exact absurd label (Minter.iriAt_ne_rdfsLabel base number)

end

namespace PatternSet

variable {base text : String} {set : PatternSet}

theorem namespaced_ne_subject {subjectBase root name : String}
    (compiled : ofText base text = .ok set)
    (apart : ∀ entry ∈ set.namespaces.entries, ¬ ReachesNumber entry.2 subjectBase)
    (used : .namespaced root name ∈ set.components) (number : Nat) :
    root ++ name ≠ Minter.iriAt subjectBase number := by
  intro same
  obtain ⟨namePrefix, declared⟩ := declared_of_ofText compiled _ used
  exact apart _ declared (reachesNumber_iff.mpr ⟨name, number, same⟩)

theorem named_ne_subject {subjectBase name iri : String} (compiled : ofText base text = .ok set)
    (different : base ≠ subjectBase)
    (apart : ¬ (ExtendsByNumber subjectBase base ∨ ExtendsByNumber base subjectBase))
    (used : .named name iri ∈ set.components) (number : Nat) :
    iri ≠ Minter.iriAt subjectBase number := by
  intro same
  obtain ⟨rank, rfl⟩ := Variables.exists_rank (declared_of_ofText compiled _ used)
  rw [Variables.iriAt, base_of_ofText compiled] at same
  exact apart ((exists_append_number_eq_iff different).mp ⟨rank, number, same⟩)

/-- No component stands for a subject if neither a prefixed name nor a variable does. -/
theorem term?_ne_subject {bases : Identifiers} (compiled : ofText bases.variableBase text = .ok set)
    (different : bases.variableBase ≠ bases.subjectBase) (apart : SubjectsApart bases set)
    (number : Nat) {component : Component} (used : component ∈ set.components) :
    component.term? ≠ some (.iri (Minter.iriAt bases.subjectBase number)) := by
  intro stands
  cases component with
  | literal value => cases stands
  | namespaced root name =>
    apply namespaced_ne_subject compiled apart.roots used number
    simpa [Component.term?] using stands
  | named name iri =>
    apply named_ne_subject compiled different apart.identifiers used number
    simpa [Component.term?] using stands
  | resource iri => exact declared_of_ofText compiled _ used
  | placeholder => cases stands

end PatternSet

namespace Configuration

variable {configuration : Configuration} {text : String} {set : PatternSet}

/-- The statements of a build are what its bound patterns and its bound details emit, and one
subject is minted for each of the details. A root can be completed to a subject exactly if it
reaches the base of the subjects. If no declared root does, no prefixed name of the text is ever
minted; and if the bases of the identifiers are apart as well, every statement that mentions a
subject is emitted by the binding of the detail for which the subject was minted, and by nothing
else. -/
theorem subjects_fresh (accepted : configuration.check = .ok ())
    (compiled : PatternSet.ofText configuration.identifiers.variableBase text = .ok set)
    (templates : List QuestionTemplate) (source : AnswerSource) :
    let bases := configuration.identifiers
    let build := Build.ofParts bases set templates source
    let steps := (Matching.of set templates source.resolve).bindingSteps
    let subject := Minter.iriAt bases.subjectBase
    build.counts.mintedSubjects = (boundDetails steps).length ∧
      (∀ statement, statement ∈ build.graph.statements ↔
        ∃ origin : Origin, origin.Emits bases.subjectBase set steps statement) ∧
      (∀ root, ReachesNumber root bases.subjectBase ↔
        ∃ name number, root ++ name = subject number) ∧
      ((∀ entry ∈ set.namespaces.entries, ¬ ReachesNumber entry.2 bases.subjectBase) →
        ∀ root name, .namespaced root name ∈ set.components →
          ∀ number, root ++ name ≠ subject number) ∧
      (SubjectsApart bases set → ∀ (origin : Origin) statement number,
        origin.Emits bases.subjectBase set steps statement →
          .iri (subject number) ∈ statement.terms → origin = .detail number) ∧
      ∀ number, (∀ component ∈ set.components, component.term? ≠ some (.iri (subject number))) →
        ∀ (origin : Origin) statement, origin.Emits bases.subjectBase set steps statement →
          .iri (subject number) ∈ statement.terms → origin = .detail number := by
  intro bases build steps subject
  obtain ⟨-, -, different⟩ := checks_of_check accepted
  refine ⟨Build.mintedSubjects_eq bases set templates source,
    fun statement => Assembly.mem_statements_run, fun root => reachesNumber_iff, ?_, ?_, ?_⟩
  · intro apart root name used number
    exact PatternSet.namespaced_ne_subject compiled apart used number
  · intro apart origin statement number emitted mentioned
    apply Origin.eq_detail_of_mentions ?_ emitted mentioned
    intro component used
    exact PatternSet.term?_ne_subject compiled different apart number used
  · intro number apart origin statement emitted mentioned
    exact Origin.eq_detail_of_mentions apart emitted mentioned

/-- A text whose root goes on behind the base of the subjects, but not with a number. -/
def besideSubjects : String :=
  "NAMESPACES\nx: <http://example_data.org/answer/x>\n\nIF M:\nx:0 is #ANSWER .\n\n"

def setBesideSubjects : PatternSet where
  namespaces := ⟨[("x", "http://example_data.org/answer/x")]⟩
  variableTable := { base := Variables.defaultBase }
  patterns := [[⟨[.namespaced "http://example_data.org/answer/x" "0", .literal "is",
    .placeholder]⟩]]
  blocks := [{ condition := ⟨["M"], .only⟩, pattern := 0, line := 4 }]

/-- An answer with one detail. -/
def answeredM : AnswerSource where
  knowledgeObjects := [{ id := 7, category := "P" }]
  answers := [{ detailIds := [1], templateNames := ["M"], finalResult := "y" }]
  details := [{ id := 1, text := "M", knowledgeObjectIds := [7] }]

def templateM : QuestionTemplate where
  broaderType := "M"
  specificType := "M"

theorem subjects_fresh_beside :
    let bases : Identifiers := {}
    let steps := (Matching.of setBesideSubjects [templateM] answeredM.resolve).bindingSteps
    ({} : Configuration).check = .ok () ∧
      PatternSet.ofText bases.variableBase besideSubjects = .ok setBesideSubjects ∧
      SubjectsApart bases setBesideSubjects ∧
      (∀ number, "http://example_data.org/answer/x" ++ "0" ≠
        Minter.iriAt bases.subjectBase number) ∧
      ∀ origin : Origin, origin.Emits bases.subjectBase setBesideSubjects steps
          ⟨[.iri "http://example_data.org/answer/x0", .literal "is",
            .iri (Minter.iriAt bases.subjectBase 0)]⟩ → origin = .detail 0 := by
  intro bases steps
  have accepted : ({} : Configuration).check = .ok () := by decide +kernel
  have compiled : PatternSet.ofText bases.variableBase besideSubjects = .ok setBesideSubjects := by
    decide +kernel
  have apart : SubjectsApart bases setBesideSubjects := by
    constructor
    · intro entry listed
      obtain rfl := List.mem_singleton.mp listed
      rintro (short | ⟨number, same⟩)
      · exact absurd short (by decide)
      · have cut : "http://example_data.org/answer/x" = bases.subjectBase ++ "x" := by decide
        have texts := congrArg String.toList (cut.symm.trans same)
        rw [String.toList_append, String.toList_append] at texts
        have behind : "x".toList = numeral number := List.append_cancel_left texts
        have digit := isDigit_of_mem_numeral (behind ▸ (by decide : 'x' ∈ "x".toList))
        cases digit
    · rintro (longer | longer)
      · exact absurd longer.isPrefix (by decide)
      · exact absurd longer.isPrefix (by decide)
  obtain ⟨-, -, -, names, owned, -⟩ := subjects_fresh accepted compiled [templateM] answeredM
  refine ⟨accepted, compiled, apart, ?_, ?_⟩
  · apply names apart.roots
    decide
  · intro origin emitted
    apply owned apart origin _ 0 emitted
    exact List.mem_cons_of_mem _ (List.mem_cons_of_mem _ List.mem_cons_self)

/-- A text whose root is the base of the subjects, with a resource that has a number for a name. -/
def amongSubjects : String :=
  "NAMESPACES\nx: <http://example_data.org/answer/>\n\nIF M:\nx:0 is old .\n#ANSWER is new .\n\n"

def setAmongSubjects : PatternSet where
  namespaces := ⟨[("x", "http://example_data.org/answer/")]⟩
  variableTable := { base := Variables.defaultBase }
  patterns := [[
    ⟨[.namespaced "http://example_data.org/answer/" "0", .literal "is", .literal "old"]⟩,
    ⟨[.placeholder, .literal "is", .literal "new"]⟩]]
  blocks := [{ condition := ⟨["M"], .only⟩, pattern := 0, line := 4 }]

/-- With the default bases, the text compiles, and its resource is the first subject that a build
mints: what was written about the resource is a statement about the answer. -/
theorem subject_is_declared :
    ({} : Configuration).check = .ok () ∧
      PatternSet.ofText Variables.defaultBase amongSubjects = .ok setAmongSubjects ∧
      .namespaced Minter.defaultBase "0" ∈ setAmongSubjects.components ∧
      Minter.defaultBase ++ "0" = (Minter.mint { base := Minter.defaultBase }).1 ∧
      (Build.ofParts {} setAmongSubjects [templateM] answeredM).graph.distinct =
        [⟨[.iri "http://example_data.org/answer/0", .literal "is", .literal "old"]⟩,
          ⟨[.iri "http://example_data.org/answer/0", .iri Vocabulary.rdfsLabel, .literal "M"]⟩,
          ⟨[.iri "http://example_data.org/answer/0", .literal "is", .literal "new"]⟩] ∧
      (Origin.fixed 0).Emits Minter.defaultBase setAmongSubjects
        (Matching.of setAmongSubjects [templateM] answeredM.resolve).bindingSteps
        ⟨[.iri "http://example_data.org/answer/0", .literal "is", .literal "old"]⟩ := by
  refine ⟨by decide +kernel, by decide +kernel, by decide, by decide, by decide +kernel, ?_, ?_⟩
  · decide +kernel
  · decide +kernel

end Configuration

end AnswerGraph
