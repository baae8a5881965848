import AnswerGraph.Proofs.IrrelevantInput
import AnswerGraph.Proofs.MatchingLinks
import AnswerGraph.Proofs.StatementOrigin
import Mathlib.Algebra.GroupWithZero.Nat

/-!
What a build counts. The counts grow while a build runs, binding by binding; here they are read off
the matching that the build starts from: a template is bound once for each pair of a pattern and an
answer, and each such binding mints a subject for every detail that is represented. The numbers of
these subjects are those below the count, each labelled with the text of its detail.
-/

namespace AnswerGraph

/-! ## Bindings of a matching -/

/-- Lists of one length, one for each member. -/
private theorem length_flatMap_of_length {members : List α} {f : α → List β} {size : Nat}
    (each : ∀ member ∈ members, (f member).length = size) :
    (members.flatMap f).length = members.length * size := by
  rw [List.length_flatMap, List.map_congr_left each, List.map_const', List.sum_replicate_nat]

namespace Matching

/-- The answers that a template binds, in order. -/
def boundAnswers (matching : Matching) (matched : MatchedTemplate) : List Answer :=
  matched.answers.filterMap fun number => (matching.answers[number]?).map MatchedAnswer.answer

/-- How many details the answers of a template have represented, each answer by itself. -/
def representedCount (matching : Matching) (matched : MatchedTemplate) : Nat :=
  ((matching.boundAnswers matched).map fun answer => answer.representedDetails.length).sum

variable (matching : Matching) (matched : MatchedTemplate)

/-- The bindings of a template are the pairs of its patterns and its answers. -/
theorem stepsOf_eq : matching.stepsOf matched = matched.patterns.flatMap fun pattern =>
    (matching.boundAnswers matched).map (BindingStep.mk pattern) := by
  rw [stepsOf]
  apply List.flatMap_congr
  intro pattern _
  rw [boundAnswers, List.map_filterMap]
  simp only [Option.map_map, Function.comp_def]

theorem length_stepsOf : (matching.stepsOf matched).length =
    matched.patterns.length * (matching.boundAnswers matched).length := by
  rw [stepsOf_eq]
  exact length_flatMap_of_length fun pattern _ => List.length_map _

theorem length_boundDetails_stepsOf : (boundDetails (matching.stepsOf matched)).length =
    matched.patterns.length * matching.representedCount matched := by
  rw [stepsOf_eq, boundDetails, List.flatMap_assoc]
  apply length_flatMap_of_length
  intro pattern _
  rw [List.length_flatMap, List.map_map, representedCount]
  apply congrArg List.sum
  apply List.map_congr_left
  intro answer _
  exact List.length_map _

theorem length_bindingSteps : matching.bindingSteps.length = (matching.answered.map fun matched =>
    matched.patterns.length * (matching.boundAnswers matched).length).sum := by
  rw [bindingSteps, List.length_flatMap]
  simp only [length_stepsOf]

theorem length_boundDetails : (boundDetails matching.bindingSteps).length =
    (matching.answered.map fun matched =>
      matched.patterns.length * matching.representedCount matched).sum := by
  have each : ∀ matched, ((matching.stepsOf matched).flatMap BindingStep.boundDetails).length =
      matched.patterns.length * matching.representedCount matched :=
    length_boundDetails_stepsOf matching
  rw [bindingSteps, boundDetails, List.flatMap_assoc, List.length_flatMap]
  simp only [each]

/-- No number of an answer is out of range, so every answer of a template is bound. -/
theorem length_boundAnswers {set : PatternSet} {templates : List QuestionTemplate}
    {answers : List Answer} {matched : MatchedTemplate}
    (listed : matched ∈ (Matching.of set templates answers).templates) :
    ((Matching.of set templates answers).boundAnswers matched).length =
      matched.answers.length := by
  apply List.filterMap_length_eq_length.mpr
  intro number noted
  rw [Option.isSome_map, List.getElem?_eq_getElem (lt_length_answers listed noted)]
  rfl

/-- A template without patterns has no bindings. -/
theorem referenceSteps_of_unpatterned {set : PatternSet} {front back : List QuestionTemplate}
    {template : QuestionTemplate} (none : template.attachedPatterns set = [])
    (answers : List Answer) :
    referenceSteps set (front ++ template :: back) answers =
      referenceSteps set (front ++ back) answers := by
  simp only [referenceSteps, List.filter_append, List.filter_cons, List.flatMap_append]
  split
  · rw [List.flatMap_cons, none]
    rfl
  · rfl

end Matching

/-! ## A run of bindings -/

namespace Assembly

variable {base : String} {set : PatternSet}

theorem bindings_foldl (steps : List BindingStep) (assembly : Assembly) :
    (steps.foldl bind assembly).bindings = assembly.bindings + steps.length := by
  induction steps generalizing assembly with
  | nil => rfl
  | cons step rest ih =>
    rw [List.foldl_cons, ih, List.length_cons]
    exact Nat.add_right_comm assembly.bindings 1 rest.length

theorem count_run (steps : List BindingStep) :
    (run base set steps).minter.count = (boundDetails steps).length := by
  rw [run, count_foldl]
  exact Nat.zero_add _

/-- After any bindings a build is in step with the reference. -/
theorem exists_follows_run (base : String) (set : PatternSet) (steps : List BindingStep) :
    ∃ bound emitted, Follows set base bound emitted (run base set steps) := by
  induction steps using List.reverseRecOn with
  | nil => exact ⟨[], [], start_follows base set⟩
  | append_singleton front step ih =>
    obtain ⟨bound, emitted, follows⟩ := ih
    rw [run, List.foldl_append]
    exact ⟨_, _, follows.bind step⟩

/-- The lines that a step adds to a pattern when `count` subjects were minted: a label and a copy of
each line with a placeholder, for every represented detail, whose subjects are numbered from `count`
on. -/
def linesAdded (base : String) (set : PatternSet) (count : Nat) (step : BindingStep) :
    List StatementPattern :=
  TriplePattern.linesOf (TriplePattern.templated (set.pattern step.pattern)) base count
    step.answer.representedDetails

/-- Whatever was bound before, a binding adds the lines of the block as it was compiled. -/
theorem bind_pattern_run (front : List BindingStep) (step : BindingStep) :
    (TriplePattern.bind ((run base set front).pattern step.pattern) step.answer
        (run base set front).minter).1 =
      (run base set front).pattern step.pattern ++
        linesAdded base set (run base set front).minter.count step := by
  obtain ⟨bound, emitted, follows⟩ := exists_follows_run base set front
  rw [TriplePattern.bind_eq, follows.templated, follows.base, linesAdded]

/-- An added line is about a detail under a number of its own. -/
theorem exists_of_mem_linesAdded {count : Nat} {step : BindingStep} {line : StatementPattern}
    (added : line ∈ linesAdded base set count step) :
    ∃ number < count + step.answer.representedDetails.length,
      ∃ detail ∈ step.answer.representedDetails,
        line ∈ TriplePattern.detailLines (TriplePattern.templated (set.pattern step.pattern))
          (Minter.iriAt base number) detail.text := by
  obtain ⟨⟨detail, number⟩, placed, about⟩ := List.mem_flatMap.mp added
  exact ⟨number, List.snd_lt_add_of_mem_zipIdx placed, detail, List.fst_mem_of_mem_zipIdx placed,
    about⟩

/-- A binding numbers its subjects below the count of the whole run. -/
theorem count_add_le (front rest : List BindingStep) (step : BindingStep) :
    (run base set front).minter.count + step.answer.representedDetails.length ≤
      (run base set (front ++ step :: rest)).minter.count := by
  have own : step.boundDetails.length = step.answer.representedDetails.length := List.length_map _
  have whole : boundDetails (front ++ step :: rest) =
      boundDetails front ++ (step.boundDetails ++ boundDetails rest) := by
    rw [← boundDetails_cons]
    exact List.flatMap_append
  rw [count_run, count_run, whole, List.length_append, List.length_append, own, ← Nat.add_assoc]
  exact Nat.le_add_right _ _

end Assembly

/-! ## The counts of a build -/

namespace Build

/-- What the counts of a build say about its matching, and about the subjects in its graph. -/
structure Accounts (base : String) (set : PatternSet) (matching : Matching) (build : Build) :
    Prop where
  answered : build.counts.answeredTemplates ≤ build.counts.templates
  /-- One binding for every pattern and every answer of an answered template. -/
  bindings : build.counts.bindings = (matching.answered.map fun matched =>
    matched.patterns.length * matched.answers.length).sum
  /-- One subject for every pattern and every represented detail of the answers. -/
  mintedSubjects : build.counts.mintedSubjects = (matching.answered.map fun matched =>
    matched.patterns.length * matching.representedCount matched).sum
  /-- A number below the count belongs to a detail, with which its subject is labelled. -/
  labelled : ∀ number < build.counts.mintedSubjects, ∃ bound,
    (boundDetails matching.bindingSteps)[number]? = some bound ∧
      ⟨[.iri (Minter.iriAt base number), .iri Vocabulary.rdfsLabel,
        .literal bound.detail.text]⟩ ∈ build.graph.statements
  /-- All that a binding adds to its pattern is about subjects with such numbers. -/
  added : ∀ front step rest, matching.bindingSteps = front ++ step :: rest →
    let before := Assembly.run base set front
    let lines := Assembly.linesAdded base set before.minter.count step
    (TriplePattern.bind (before.pattern step.pattern) step.answer before.minter).1 =
        before.pattern step.pattern ++ lines ∧
      ∀ line ∈ lines, ∃ number < build.counts.mintedSubjects,
        ∃ detail ∈ step.answer.representedDetails,
          line ∈ TriplePattern.detailLines (TriplePattern.templated (set.pattern step.pattern))
            (Minter.iriAt base number) detail.text
  /-- The graph has the fixed statements of bound patterns, what is said about the details under
  their numbers, and nothing else. -/
  said : ∀ statement, statement ∈ build.graph.statements ↔
    (∃ step ∈ matching.bindingSteps,
      statement ∈ TriplePattern.resolved (set.pattern step.pattern)) ∨
    ∃ number < build.counts.mintedSubjects, ∃ bound,
      (boundDetails matching.bindingSteps)[number]? = some bound ∧
        statement ∈ TriplePattern.statementsAbout (set.pattern bound.pattern)
          (Minter.iriAt base number) bound.detail.text

variable (identifiers : Identifiers) (set : PatternSet) (templates : List QuestionTemplate)
variable (source : AnswerSource)

theorem bindingCount_eq : (ofParts identifiers set templates source).counts.bindings =
    (Matching.of set templates source.resolve).bindingSteps.length :=
  (Assembly.bindings_foldl _ _).trans (Nat.zero_add _)

theorem mem_statements_ofParts {statement : Statement} :
    statement ∈ (ofParts identifiers set templates source).graph.statements ↔
      ∃ origin : Origin, origin.Emits identifiers.subjectBase set
        (Matching.of set templates source.resolve).bindingSteps statement :=
  Assembly.mem_statements_run

theorem accounts_ofParts : (ofParts identifiers set templates source).Accounts
    identifiers.subjectBase set (Matching.of set templates source.resolve) := by
  have minted := mintedSubjects_eq identifiers set templates source
  have numbered {number : Nat} {bound : BoundDetail}
      (placed : (boundDetails (Matching.of set templates source.resolve).bindingSteps)[number]? =
        some bound) :
      number < (ofParts identifiers set templates source).counts.mintedSubjects := by
    rw [minted]
    exact (List.getElem?_eq_some_iff.mp placed).1
  constructor
  case answered => exact List.length_filter_le _ _
  case bindings =>
    rw [bindingCount_eq, Matching.length_bindingSteps]
    apply congrArg List.sum
    apply List.map_congr_left
    intro matched answered
    rw [Matching.length_boundAnswers (List.mem_of_mem_filter answered)]
  case mintedSubjects => rw [minted, Matching.length_boundDetails]
  case labelled =>
    intro number below
    rw [minted] at below
    have placed := List.getElem?_eq_getElem below
    refine ⟨_, placed, ?_⟩
    rw [mem_statements_ofParts]
    exact ⟨.detail number, _, placed, List.mem_cons_self⟩
  case added =>
    intro front step rest split before lines
    refine ⟨Assembly.bind_pattern_run front step, fun line inside => ?_⟩
    obtain ⟨number, below, about⟩ := Assembly.exists_of_mem_linesAdded inside
    have within := @Assembly.count_add_le identifiers.subjectBase set front rest step
    rw [← split] at within
    exact ⟨number, Nat.lt_of_lt_of_le below within, about⟩
  case said =>
    intro statement
    rw [mem_statements_ofParts]
    constructor
    · rintro ⟨pattern | number, emitted⟩
      · obtain ⟨taken, fixed⟩ := emitted
        obtain ⟨step, member, rfl⟩ := List.mem_map.mp taken
        exact .inl ⟨step, member, fixed⟩
      · obtain ⟨bound, placed, about⟩ := emitted
        exact .inr ⟨number, numbered placed, bound, placed, about⟩
    · rintro (⟨step, member, fixed⟩ | ⟨number, -, bound, placed, about⟩)
      · exact ⟨.fixed step.pattern, List.mem_map_of_mem member, fixed⟩
      · exact ⟨.detail number, bound, placed, about⟩

/-- The counts of a build are what its matching says: a binding for every pattern and every answer
of each answered template, and a subject for every detail that such a binding represents. The
subjects are numbered from 0 on without gaps, each has the label of its detail in the graph, and no
binding adds anything about a higher number. A template without patterns changes neither the graph
nor these counts. -/
theorem counts_what_is_built :
    (ofParts identifiers set templates source).Accounts identifiers.subjectBase set
        (Matching.of set templates source.resolve) ∧
      ∀ front template back, templates = front ++ template :: back →
        template.attachedPatterns set = [] →
        let build := ofParts identifiers set templates source
        let without := ofParts identifiers set (front ++ back) source
        build.graph = without.graph ∧ build.counts.bindings = without.counts.bindings ∧
          build.counts.mintedSubjects = without.counts.mintedSubjects := by
  refine ⟨accounts_ofParts identifiers set templates source, ?_⟩
  rintro front template back rfl none build without
  have steps : (Matching.of set (front ++ template :: back) source.resolve).bindingSteps =
      (Matching.of set (front ++ back) source.resolve).bindingSteps := by
    rw [Matching.bindingSteps_of, Matching.bindingSteps_of,
      Matching.referenceSteps_of_unpatterned none]
  simp only [build, without, ofParts, steps, and_self]

/-- No block of the workshop is about tools. -/
def sawing : QuestionTemplate := { broaderType := "Tool", specificType := "Saw" }

/-- One answer to two templates. The last of its details has no knowledge object. -/
def sawmill : AnswerSource where
  knowledgeObjects := [{ id := 8, category := "Process" }]
  answers := [{ detailIds := [1, 2, 3], templateNames := ["Process", "Milling", "Tool", "Saw"]
                finalResult := "done" }]
  details := [
    { id := 1, text := "mill", knowledgeObjectIds := [8] },
    { id := 2, text := "saw", knowledgeObjectIds := [8] },
    { id := 3, text := "noise" }]

/-- The template without patterns has a final answer and is counted as answered, but it binds
nothing. -/
theorem counts_what_is_built_sawmill :
    let build := ofParts { subjectBase := "urn:a/" } Workshop.steps [sawing, Workshop.milling] sawmill
    let without := ofParts { subjectBase := "urn:a/" } Workshop.steps [Workshop.milling] sawmill
    sawing.attachedPatterns Workshop.steps = [] ∧ build.counts.answeredTemplates = 2 ∧
      build.counts.bindings = 1 ∧ build.counts.mintedSubjects = 2 ∧
      ⟨[.iri "urn:a/1", .iri Vocabulary.rdfsLabel, .literal "saw"]⟩ ∈ build.graph.statements ∧
      build.graph = without.graph ∧ without.counts.bindings = 1 ∧
      without.counts.mintedSubjects = 2 := by
  intro build without
  obtain ⟨accounts, deleted⟩ := counts_what_is_built { subjectBase := "urn:a/" }
    Workshop.steps [sawing, Workshop.milling] sawmill
  have unpatterned : sawing.attachedPatterns Workshop.steps = [] := by decide
  obtain ⟨graph, bindings, minted⟩ := deleted [] sawing [Workshop.milling] rfl unpatterned
  have once : build.counts.bindings = 1 := accounts.bindings.trans (by decide)
  have both : build.counts.mintedSubjects = 2 := accounts.mintedSubjects.trans (by decide)
  have second : 1 < build.counts.mintedSubjects := by
    rw [both]
    exact Nat.one_lt_two
  have labelled : ⟨[.iri "urn:a/1", .iri Vocabulary.rdfsLabel, .literal "saw"]⟩ ∈
      build.graph.statements := by
    obtain ⟨bound, placed, said⟩ := accounts.labelled 1 second
    have sawn : bound.detail.text = "saw" := by
      cases placed
      rfl
    rwa [sawn] at said
  exact ⟨unpatterned, by decide, once, both, labelled, graph, bindings.symm.trans once,
    minted.symm.trans both⟩

end Build

end AnswerGraph
