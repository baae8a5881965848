import AnswerGraph.Assembly
import AnswerGraph.Proofs.Binding
import AnswerGraph.Proofs.Firsts
import Mathlib.Data.List.Basic

/-!
Assembly in one pass. A build changes its patterns while it binds and collects all of a pattern
after every binding. The reference below changes nothing: it says the fixed statements of a block
when the block is first bound, and for every binding the statements about the details of the
answer. Both have the same distinct statements in the same order, however blocks are shared.
-/

namespace AnswerGraph

/-- The bindings of a build, said without numbers of answers. -/
def referenceSteps (set : PatternSet) (templates : List QuestionTemplate)
    (answers : List Answer) : List BindingStep :=
  let answered := templates.filter fun template =>
    answers.any fun answer => template.isAnsweredBy answer && answer.hasFinalResult
  answered.flatMap fun template =>
    (template.attachedPatterns set).flatMap fun pattern =>
      (answers.filter template.isAnsweredBy).map fun answer => ⟨pattern, answer⟩

/-- What the reference says for one binding. The patterns in `bound` were bound before, and `count`
subjects were minted. -/
def BindingStep.statements (step : BindingStep) (base : String) (set : PatternSet)
    (bound : List Nat) (count : Nat) : List Statement :=
  (if step.pattern ∈ bound then [] else TriplePattern.resolved (set.pattern step.pattern)) ++
    TriplePattern.statementsOf (set.pattern step.pattern) base count
      step.answer.representedDetails

/-- The statements of some bindings, each about the blocks as they were compiled. -/
def referenceFrom (base : String) (set : PatternSet) (bound : List Nat) (count : Nat) :
    List BindingStep → List Statement
  | [] => []
  | step :: rest =>
    step.statements base set bound count ++
      referenceFrom base set (step.pattern :: bound)
        (count + step.answer.representedDetails.length) rest

/-- The statements of a build in one pass. -/
def referenceStatements (base : String) (set : PatternSet) (steps : List BindingStep) :
    List Statement :=
  referenceFrom base set [] 0 steps

namespace Matching

private theorem filterMap_positionsOf (test : α → Bool) (members : List α) :
    (positionsOf test members).filterMap (members[·]?) = members.filter test := by
  have entry : ∀ pair ∈ members.zipIdx.filter (fun pair => test pair.1),
      members[pair.2]? = some pair.1 := by
    intro pair kept
    exact List.mem_zipIdx_iff_getElem?.mp (List.mem_filter.mp kept).1
  calc (positionsOf test members).filterMap (members[·]?)
      = (members.zipIdx.filter fun pair => test pair.1).filterMap fun pair => some pair.1 := by
        rw [positionsOf, List.filterMap_map]
        exact List.filterMap_congr entry
    _ = (members.zipIdx.filter fun pair => test pair.1).map Prod.fst := by
        rw [← List.filterMap_eq_map]; rfl
    _ = (members.zipIdx.map Prod.fst).filter test := by
        rw [List.filter_map]; rfl
    _ = members.filter test := by rw [List.zipIdx_map_fst]

/-- A matched template binds the answers that name both of its types. -/
theorem stepsOf_matchTemplate (set : PatternSet) (templates : List QuestionTemplate)
    (answers : List Answer) (template : QuestionTemplate) :
    (Matching.of set templates answers).stepsOf (matchTemplate set answers template) =
      (template.attachedPatterns set).flatMap fun pattern =>
        (answers.filter template.isAnsweredBy).map fun answer => ⟨pattern, answer⟩ := by
  have bindings : ∀ pattern : Nat,
      ((positionsOf template.isAnsweredBy answers).filterMap fun number =>
          ((answers.map (matchAnswer templates))[number]?).map fun found =>
            (⟨pattern, found.answer⟩ : BindingStep)) =
        (answers.filter template.isAnsweredBy).map fun answer => ⟨pattern, answer⟩ := by
    intro pattern
    rw [← filterMap_positionsOf, List.map_filterMap]
    simp [matchAnswer, Function.comp_def]
  simp only [stepsOf, matchTemplate, Matching.of, bindings]

theorem bindingSteps_of (set : PatternSet) (templates : List QuestionTemplate)
    (answers : List Answer) :
    (Matching.of set templates answers).bindingSteps = referenceSteps set templates answers := by
  have answered : (Matching.of set templates answers).answered =
      (templates.filter fun template => answers.any fun answer =>
        template.isAnsweredBy answer && answer.hasFinalResult).map
          (matchTemplate set answers) := by
    simp only [Matching.answered, Matching.of, List.filter_map]
    rfl
  simp only [bindingSteps, answered, List.flatMap_map, stepsOf_matchTemplate, referenceSteps]

end Matching

namespace Assembly

/-- The pattern of a number in the middle of a build. -/
def pattern (assembly : Assembly) (number : Nat) : TriplePattern :=
  (assembly.patterns[number]?).getD []

/-- A build that has said as much as the reference. The patterns in `bound` were bound before; all
that they resolve to is among the statements that the reference has emitted. -/
structure Follows (set : PatternSet) (base : String) (bound : List Nat) (emitted : List Statement)
    (assembly : Assembly) : Prop where
  base : assembly.minter.base = base
  templated : ∀ number, TriplePattern.templated (assembly.pattern number) =
    TriplePattern.templated (set.pattern number)
  unbound : ∀ number, number ∉ bound → assembly.pattern number = set.pattern number
  bound : ∀ number ∈ bound, ∀ statement ∈ TriplePattern.resolved (assembly.pattern number),
    statement ∈ emitted
  distinct : assembly.graph.distinct = firsts emitted

theorem start_follows (base : String) (set : PatternSet) :
    Follows set base [] [] (start base set) where
  base := rfl
  templated _ := rfl
  unbound _ _ := rfl
  bound _ member := absurd member List.not_mem_nil
  distinct := rfl

/-- Binding changes the pattern of the step only. -/
theorem pattern_bind (assembly : Assembly) (step : BindingStep) (number : Nat) :
    (assembly.bind step).pattern number =
      if number = step.pattern ∧ number < assembly.patterns.length then
        (TriplePattern.bind (assembly.pattern number) step.answer assembly.minter).1
      else assembly.pattern number := by
  simp only [pattern, bind, List.getElem?_set]
  by_cases same : step.pattern = number
  · subst number
    by_cases inside : step.pattern < assembly.patterns.length
    · simp [inside]
    · simp [inside]
  · simp [same, Ne.symm same]

theorem statements_bind (assembly : Assembly) (step : BindingStep) :
    (assembly.bind step).graph.statements = assembly.graph.statements ++
      TriplePattern.resolved
        (TriplePattern.bind (assembly.pattern step.pattern) step.answer assembly.minter).1 :=
  rfl

theorem minter_bind (assembly : Assembly) (step : BindingStep) :
    (assembly.bind step).minter = { assembly.minter with
      count := assembly.minter.count + step.answer.representedDetails.length } :=
  congrArg Prod.snd (TriplePattern.bind_eq (assembly.pattern step.pattern) _ assembly.minter)

namespace Follows

variable {set : PatternSet} {base : String} {bound : List Nat} {emitted : List Statement}
variable {assembly : Assembly}

/-- The bound pattern resolves to what it did before, and to statements about the new subjects. -/
theorem resolved_bind (follows : Follows set base bound emitted assembly) (number : Nat)
    (answer : Answer) :
    TriplePattern.resolved
        (TriplePattern.bind (assembly.pattern number) answer assembly.minter).1 =
      TriplePattern.resolved (assembly.pattern number) ++
        TriplePattern.statementsOf (set.pattern number) base assembly.minter.count
          answer.representedDetails := by
  have same : TriplePattern.statementsOf (assembly.pattern number) =
      TriplePattern.statementsOf (set.pattern number) := by
    funext base number details
    simp only [TriplePattern.statementsOf, TriplePattern.statementsAbout, follows.templated]
  rw [← same, ← follows.base, TriplePattern.bind_eq, TriplePattern.resolved_append,
    TriplePattern.resolved_linesOf]

/-- Whatever the pattern of a step resolves to before the step has been said when the reference
has emitted the step: by an earlier step, or now as the fixed statements of the block. -/
theorem resolved_mem_statements (follows : Follows set base bound emitted assembly)
    (step : BindingStep) {statement : Statement}
    (member : statement ∈ TriplePattern.resolved (assembly.pattern step.pattern)) :
    statement ∈ emitted ++ step.statements base set bound assembly.minter.count := by
  by_cases known : step.pattern ∈ bound
  · exact List.mem_append_left _ (follows.bound _ known statement member)
  · rw [follows.unbound _ known] at member
    simp [BindingStep.statements, known, member]

theorem distinct_bind (follows : Follows set base bound emitted assembly) (step : BindingStep) :
    (assembly.bind step).graph.distinct =
      firsts (emitted ++ step.statements base set bound assembly.minter.count) := by
  rw [Graph.distinct, statements_bind, follows.resolved_bind, ← List.append_assoc]
  by_cases known : step.pattern ∈ bound
  · -- What the block resolved to before is in the graph, so it adds nothing there.
    have repeated : ∀ statement ∈ TriplePattern.resolved (assembly.pattern step.pattern),
        statement ∈ assembly.graph.statements := by
      intro statement member
      rw [← mem_firsts, ← Graph.distinct, follows.distinct, mem_firsts]
      exact follows.bound _ known statement member
    rw [firsts_append_of_known repeated, firsts_append_congr follows.distinct]
    simp [BindingStep.statements, known]
  · rw [List.append_assoc, firsts_append_congr follows.distinct, follows.unbound _ known]
    simp [BindingStep.statements, known]

/-- One binding keeps a build in step with the reference. -/
theorem bind (follows : Follows set base bound emitted assembly) (step : BindingStep) :
    Follows set base (step.pattern :: bound)
      (emitted ++ step.statements base set bound assembly.minter.count) (assembly.bind step) where
  base := by rw [minter_bind]; exact follows.base
  templated number := by
    rw [pattern_bind]
    split
    · rw [← follows.templated number, TriplePattern.bind_eq]
      exact TriplePattern.templated_append_of_bound _ fun _ =>
        TriplePattern.hasPlaceholder_of_mem_linesOf
    · exact follows.templated number
  unbound number fresh := by
    have different : number ≠ step.pattern := fun same => fresh (same ▸ List.mem_cons_self)
    rw [pattern_bind, if_neg fun both => different both.1]
    exact follows.unbound number fun member => fresh (List.mem_cons_of_mem _ member)
  bound number member statement resolved := by
    rw [pattern_bind] at resolved
    by_cases same : number = step.pattern
    · subst number
      split at resolved
      · -- A block that is bound again says all that it said before, and more.
        rw [follows.resolved_bind] at resolved
        rcases List.mem_append.mp resolved with old | new
        · exact follows.resolved_mem_statements step old
        · exact List.mem_append_right _ (List.mem_append_right _ new)
      · exact follows.resolved_mem_statements step resolved
    · rw [if_neg fun both => same both.1] at resolved
      have earlier : number ∈ bound := (List.mem_cons.mp member).resolve_left same
      exact List.mem_append_left _ (follows.bound number earlier statement resolved)
  distinct := follows.distinct_bind step

/-- A run of bindings stays in step with the reference. -/
theorem run (follows : Follows set base bound emitted assembly) (steps : List BindingStep) :
    (steps.foldl Assembly.bind assembly).graph.distinct =
      firsts (emitted ++ referenceFrom base set bound assembly.minter.count steps) := by
  induction steps generalizing bound emitted assembly with
  | nil => simpa [referenceFrom] using follows.distinct
  | cons step rest ih =>
    rw [List.foldl_cons, ih (follows.bind step), minter_bind, List.append_assoc]
    rfl

end Follows

end Assembly

end AnswerGraph
