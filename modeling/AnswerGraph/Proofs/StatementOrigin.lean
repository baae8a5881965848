import AnswerGraph.Proofs.AssemblyReference
import AnswerGraph.Proofs.PatternTerms

/-!
Where the statements of a build come from. Each of them is a fixed line of a bound pattern, or it is
said about one bound detail under the subject that was minted for it. So what a statement can
mention is known as well: the terms of compiled components, and what the binding of its detail adds.
-/

namespace AnswerGraph

/-- A detail that is bound to a pattern. -/
structure BoundDetail where
  pattern : Nat
  detail : Detail
  deriving DecidableEq, Repr

def BindingStep.boundDetails (step : BindingStep) : List BoundDetail :=
  step.answer.representedDetails.map (BoundDetail.mk step.pattern)

/-- The details that some steps bind. The subject of each is numbered by its position. -/
def boundDetails (steps : List BindingStep) : List BoundDetail :=
  steps.flatMap BindingStep.boundDetails

/-- What emits a statement in a build. -/
inductive Origin where
  /-- A bound pattern, with its lines that have no placeholder. -/
  | fixed (pattern : Nat)
  /-- The binding of the detail whose subject has a number. -/
  | detail (number : Nat)
  deriving DecidableEq, Repr

/-- Whether a statement is emitted by an origin when some steps are taken. -/
def Origin.Emits (base : String) (set : PatternSet) (steps : List BindingStep)
    (statement : Statement) : Origin → Prop
  | fixed pattern =>
    pattern ∈ steps.map BindingStep.pattern ∧
      statement ∈ TriplePattern.resolved (set.pattern pattern)
  | detail number =>
    ∃ bound, (boundDetails steps)[number]? = some bound ∧
      statement ∈ TriplePattern.statementsAbout (set.pattern bound.pattern)
        (Minter.iriAt base number) bound.detail.text

variable {base : String} {set : PatternSet} {steps : List BindingStep} {statement : Statement}

/-! ## Origins of the reference -/

theorem boundDetails_cons (step : BindingStep) (rest : List BindingStep) :
    boundDetails (step :: rest) = step.boundDetails ++ boundDetails rest :=
  List.flatMap_cons

/-- The statements about the details of a step, each with the number of its subject. -/
theorem mem_statementsOf {step : BindingStep} {count : Nat} :
    statement ∈ TriplePattern.statementsOf (set.pattern step.pattern) base count
        step.answer.representedDetails ↔
      ∃ bound number, (bound, number) ∈ step.boundDetails.zipIdx count ∧
        statement ∈ TriplePattern.statementsAbout (set.pattern bound.pattern)
          (Minter.iriAt base number) bound.detail.text := by
  simp only [TriplePattern.statementsOf, List.mem_flatMap, BindingStep.boundDetails,
    List.zipIdx_map, List.mem_map, Prod.exists]
  constructor
  · rintro ⟨detail, number, placed, said⟩
    exact ⟨⟨step.pattern, detail⟩, number, ⟨detail, number, placed, rfl⟩, said⟩
  · rintro ⟨bound, number, ⟨detail, position, placed, same⟩, said⟩
    cases same
    exact ⟨detail, position, placed, said⟩

/-- The reference says the fixed lines of all patterns that were not bound before, and the
statements about all details, which it numbers from `count` on. -/
theorem mem_referenceFrom (bound : List Nat) (count : Nat) (steps : List BindingStep) :
    statement ∈ referenceFrom base set bound count steps ↔
      (∃ pattern ∈ steps.map BindingStep.pattern, pattern ∉ bound ∧
        statement ∈ TriplePattern.resolved (set.pattern pattern)) ∨
      ∃ found number, (found, number) ∈ (boundDetails steps).zipIdx count ∧
        statement ∈ TriplePattern.statementsAbout (set.pattern found.pattern)
          (Minter.iriAt base number) found.detail.text := by
  induction steps generalizing bound count with
  | nil => simp [referenceFrom, boundDetails]
  | cons step rest ih =>
    have size : step.boundDetails.length = step.answer.representedDetails.length :=
      List.length_map _
    simp only [referenceFrom, BindingStep.statements, List.mem_append, ih, mem_statementsOf,
      boundDetails_cons, List.zipIdx_append, size, List.map_cons, List.mem_cons, not_or]
    constructor
    · rintro ((fixed | said) | ⟨pattern, later, ⟨-, fresh⟩, fixed⟩ | said)
      · left
        split at fixed
        · simp at fixed
        · next fresh => exact ⟨step.pattern, .inl rfl, fresh, fixed⟩
      · obtain ⟨found, number, placed, about⟩ := said
        exact .inr ⟨found, number, .inl placed, about⟩
      · exact .inl ⟨pattern, .inr later, fresh, fixed⟩
      · obtain ⟨found, number, placed, about⟩ := said
        exact .inr ⟨found, number, .inr placed, about⟩
    · rintro (⟨pattern, here | later, fresh, fixed⟩ | ⟨found, number, here | later, about⟩)
      · subst pattern
        left; left
        simpa [fresh] using fixed
      · -- The pattern of this step is said here, also if a later step binds it again.
        by_cases same : pattern = step.pattern
        · subst pattern
          left; left
          simpa [fresh] using fixed
        · exact .inr (.inl ⟨pattern, later, ⟨same, fresh⟩, fixed⟩)
      · exact .inl (.inr ⟨found, number, here, about⟩)
      · exact .inr (.inr ⟨found, number, later, about⟩)

/-- Everything that the reference says has an origin, and what an origin emits is said. -/
theorem mem_referenceStatements :
    statement ∈ referenceStatements base set steps ↔
      ∃ origin : Origin, origin.Emits base set steps statement := by
  rw [referenceStatements, mem_referenceFrom]
  constructor
  · rintro (⟨pattern, taken, -, fixed⟩ | ⟨bound, number, placed, about⟩)
    · exact ⟨.fixed pattern, taken, fixed⟩
    · exact ⟨.detail number, bound, List.mem_zipIdx_iff_getElem?.mp placed, about⟩
  · rintro ⟨pattern | number, emitted⟩
    · exact .inl ⟨pattern, emitted.1, List.not_mem_nil, emitted.2⟩
    · obtain ⟨bound, found, about⟩ := emitted
      exact .inr ⟨bound, number, List.mem_zipIdx_iff_getElem?.mpr found, about⟩

/-! ## Origins in a build -/

namespace Assembly

theorem count_foldl (steps : List BindingStep) (assembly : Assembly) :
    (steps.foldl bind assembly).minter.count =
      assembly.minter.count + (boundDetails steps).length := by
  induction steps generalizing assembly with
  | nil => rfl
  | cons step rest ih =>
    rw [List.foldl_cons, ih, minter_bind, boundDetails_cons, List.length_append,
      BindingStep.boundDetails, List.length_map, Nat.add_assoc]

theorem mem_statements_run :
    statement ∈ (run base set steps).graph.statements ↔
      ∃ origin : Origin, origin.Emits base set steps statement := by
  have followed := (start_follows base set).run steps
  have said : statement ∈ (run base set steps).graph.distinct ↔
      statement ∈ referenceStatements base set steps := by
    rw [run, followed, mem_firsts]
    rfl
  rw [← mem_referenceStatements, ← said, Graph.distinct, mem_firsts]

end Assembly

namespace Build

variable (identifiers : Identifiers) (set : PatternSet) (templates : List QuestionTemplate)
variable (source : AnswerSource)

/-- A build mints one subject for every detail that it binds. -/
theorem mintedSubjects_eq :
    (ofParts identifiers set templates source).counts.mintedSubjects =
      (boundDetails (Matching.of set templates source.resolve).bindingSteps).length := by
  have counted := Assembly.count_foldl (Matching.of set templates source.resolve).bindingSteps
    (Assembly.start identifiers.subjectBase set)
  rwa [Assembly.start, Nat.zero_add] at counted

end Build

/-! ## What statements mention -/

theorem exists_of_mapM_some {read : α → Option β} {members : List α} {values : List β}
    (whole : members.mapM read = some values) {value : β} (listed : value ∈ values) :
    ∃ member ∈ members, read member = some value := by
  induction members generalizing values with
  | nil =>
    cases whole
    cases listed
  | cons first rest ih =>
    rw [List.mapM_cons] at whole
    obtain ⟨head, here, more⟩ := Option.bind_eq_some_iff.mp whole
    obtain ⟨tail, later, made⟩ := Option.bind_eq_some_iff.mp more
    cases made
    rcases List.mem_cons.mp listed with rfl | inside
    · exact ⟨first, List.mem_cons_self, here⟩
    · obtain ⟨member, among, found⟩ := ih later inside
      exact ⟨member, List.mem_cons_of_mem _ among, found⟩

namespace PatternSet

theorem mem_components_of_line {number : Nat} {line : StatementPattern} {component : Component}
    (listed : line ∈ set.pattern number) (used : component ∈ line.components) :
    component ∈ set.components := by
  cases found : set.patterns[number]? with
  | none =>
    rw [pattern, found] at listed
    cases listed
  | some lines =>
    rw [pattern, found] at listed
    apply List.mem_flatMap.mpr
    exact ⟨lines, List.mem_of_getElem? found, List.mem_flatMap.mpr ⟨line, listed, used⟩⟩

/-- A fixed line mentions what its components stand for. -/
theorem exists_component_of_resolved {number : Nat} {term : Term}
    (resolved : statement ∈ TriplePattern.resolved (set.pattern number))
    (mentioned : term ∈ statement.terms) :
    ∃ component ∈ set.components, component.term? = some term := by
  obtain ⟨line, listed, made⟩ := List.mem_filterMap.mp resolved
  obtain ⟨terms, whole, rfl⟩ := Option.map_eq_some_iff.mp made
  obtain ⟨component, used, stands⟩ := exists_of_mapM_some whole mentioned
  exact ⟨component, mem_components_of_line listed used, stands⟩

end PatternSet

theorem Component.of_termAbout {subject term : Term} {component : Component}
    (stands : component.termAbout subject = term) :
    component.term? = some term ∨ subject = term := by
  cases component with
  | placeholder => exact .inr stands
  | literal | namespaced | named | resource => exact .inl (congrArg some stands)

/-- A statement about a detail mentions what the components of its line stand for, the subject, and
what a label is made of. -/
theorem PatternSet.of_statementsAbout {number : Nat} {subject text : String} {term : Term}
    (about : statement ∈ TriplePattern.statementsAbout (set.pattern number) subject text)
    (mentioned : term ∈ statement.terms) :
    (∃ component ∈ set.components, component.term? = some term) ∨
      term ∈ [.iri subject, .iri Vocabulary.rdfsLabel, .literal text] := by
  rcases List.mem_cons.mp about with label | copy
  · subst statement
    exact .inr mentioned
  · obtain ⟨line, kept, rfl⟩ := List.mem_map.mp copy
    obtain ⟨component, used, stands⟩ := List.mem_map.mp mentioned
    rcases Component.of_termAbout stands with same | same
    · have listed := (List.mem_filter.mp kept).1
      exact .inl ⟨component, mem_components_of_line listed used, same⟩
    · exact .inr (same ▸ List.mem_cons_self)

end AnswerGraph
