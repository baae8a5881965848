import AnswerGraph.Proofs.AssemblyReference

/-!
Input that a build does not see. Templates and answers are matched by their positions, and subjects
are numbered as they are minted; so it is not plain that a member can be deleted from the input
without a trace in the graph. It can if nothing that is bound depends on it: the bindings of a build
are a function of the answered templates and of the answers and details that they reach.
-/

namespace AnswerGraph

/-- `after` is what is left of `before` when some of its irrelevant members are deleted, in the
order that they had. An irrelevant member may also stay. -/
inductive Deletes (irrelevant : α → Prop) : List α → List α → Prop where
  | nil : Deletes irrelevant [] []
  | keep (member : α) {before after : List α} (rest : Deletes irrelevant before after) :
      Deletes irrelevant (member :: before) (member :: after)
  | drop {member : α} {before after : List α} (unseen : irrelevant member)
      (rest : Deletes irrelevant before after) : Deletes irrelevant (member :: before) after

namespace Deletes

variable {irrelevant : α → Prop} {before after : List α}

theorem sublist (deletes : Deletes irrelevant before after) : after.Sublist before := by
  induction deletes with
  | nil => exact .slnil
  | keep member _ ih => exact ih.cons_cons member
  | drop _ _ ih => exact ih.cons _

theorem map {other : β → Prop} (f : α → β) (deletes : Deletes irrelevant before after)
    (unseen : ∀ member, irrelevant member → other (f member)) :
    Deletes other (before.map f) (after.map f) := by
  induction deletes with
  | nil => exact .nil
  | keep member _ ih => exact .keep (f member) ih
  | drop gone _ ih => exact .drop (unseen _ gone) ih

/-- A test that selects no irrelevant member selects the same members as before. -/
theorem filter_eq {test : α → Bool} (deletes : Deletes irrelevant before after)
    (unseen : ∀ member, irrelevant member → test member = false) :
    after.filter test = before.filter test := by
  induction deletes with
  | nil => rfl
  | keep member _ ih => rw [List.filter_cons, List.filter_cons, ih]
  | drop gone _ ih => rw [ih, List.filter_cons_of_neg (by simp [unseen _ gone])]

theorem any_eq {test : α → Bool} (deletes : Deletes irrelevant before after)
    (unseen : ∀ member, irrelevant member → test member = false) :
    after.any test = before.any test := by
  induction deletes with
  | nil => rfl
  | keep member _ ih => rw [List.any_cons, List.any_cons, ih]
  | drop gone _ ih => rw [ih, List.any_cons, unseen _ gone, Bool.false_or]

end Deletes

/-- The templates `remaining` and the source `kept` are what is left of `templates` and `source`
when some members are deleted that can have no part in the graph: templates without a final answer,
answers that are bound to no answered template, details that no kept answer names, and knowledge
objects that no kept detail names. -/
structure IrrelevantDeletion (set : PatternSet) (templates : List QuestionTemplate)
    (source : AnswerSource) (remaining : List QuestionTemplate) (kept : AnswerSource) : Prop where
  templatesLeft : Deletes
    (fun template =>
      (Matching.matchTemplate set source.resolve template).hasFinalAnswer = false)
    templates remaining
  answersLeft : Deletes
    (fun record => ∀ matched ∈ (Matching.of set templates source.resolve).answered,
      matched.template.isAnsweredBy (source.resolveAnswer record) = false)
    source.answers kept.answers
  detailsLeft : Deletes (fun detail => ∀ record ∈ kept.answers, detail.id ∉ record.detailIds)
    source.details kept.details
  knowledgeObjectsLeft : Deletes
    (fun object => ∀ detail ∈ kept.details, object.id ∉ detail.knowledgeObjectIds)
    source.knowledgeObjects kept.knowledgeObjects

/-- Whether some of the answers that a template gets has a final result. -/
def QuestionTemplate.isSettledBy (template : QuestionTemplate) (answers : List Answer) : Bool :=
  answers.any fun answer => template.isAnsweredBy answer && answer.hasFinalResult

namespace Matching

theorem mem_answered_of {set : PatternSet} {templates : List QuestionTemplate}
    {answers : List Answer} {template : QuestionTemplate} (member : template ∈ templates)
    (settled : template.isSettledBy answers = true) :
    matchTemplate set answers template ∈ (Matching.of set templates answers).answered :=
  List.mem_filter.mpr ⟨List.mem_map_of_mem member, settled⟩

theorem length_answered_of (set : PatternSet) (templates : List QuestionTemplate)
    (answers : List Answer) :
    (Matching.of set templates answers).answered.length =
      (templates.filter fun template => template.isSettledBy answers).length := by
  rw [answered, Matching.of, List.filter_map, List.length_map]
  rfl

end Matching

namespace IrrelevantDeletion

variable {set : PatternSet} {templates remaining : List QuestionTemplate}
variable {source kept : AnswerSource}

theorem resolveDetail_eq (deletion : IrrelevantDeletion set templates source remaining kept)
    {detail : DetailRecord} (member : detail ∈ kept.details) :
    kept.resolveDetail detail = source.resolveDetail detail := by
  have objects :
      (kept.knowledgeObjects.filter fun object => detail.knowledgeObjectIds.contains object.id) =
        source.knowledgeObjects.filter fun object =>
          detail.knowledgeObjectIds.contains object.id := by
    apply deletion.knowledgeObjectsLeft.filter_eq
    intro object unnamed
    simpa using unnamed detail member
  rw [AnswerSource.resolveDetail, objects]
  rfl

/-- A kept answer is resolved to what it was before, knowledge objects included. -/
theorem resolveAnswer_eq (deletion : IrrelevantDeletion set templates source remaining kept)
    {record : AnswerRecord} (member : record ∈ kept.answers) :
    kept.resolveAnswer record = source.resolveAnswer record := by
  have named : (kept.details.filter fun detail => record.detailIds.contains detail.id) =
      source.details.filter fun detail => record.detailIds.contains detail.id := by
    apply deletion.detailsLeft.filter_eq
    intro detail unnamed
    simpa using unnamed record member
  have resolved :
      (kept.details.filter fun detail => record.detailIds.contains detail.id).map
          kept.resolveDetail =
        (source.details.filter fun detail => record.detailIds.contains detail.id).map
          source.resolveDetail := by
    rw [← named]
    apply List.map_congr_left
    intro detail selected
    exact deletion.resolveDetail_eq (List.mem_filter.mp selected).1
  rw [AnswerSource.resolveAnswer, resolved]
  rfl

/-- The resolved answers lose only such as answer none of the answered templates. -/
theorem resolve_deletes (deletion : IrrelevantDeletion set templates source remaining kept) :
    Deletes
      (fun answer => ∀ template ∈ templates, template.isSettledBy source.resolve = true →
        template.isAnsweredBy answer = false)
      source.resolve kept.resolve := by
  have resolved : kept.resolve = kept.answers.map source.resolveAnswer :=
    List.map_congr_left fun _ => deletion.resolveAnswer_eq
  rw [resolved]
  refine deletion.answersLeft.map source.resolveAnswer ?_
  intro record unbound template member settled
  exact unbound _ (Matching.mem_answered_of member settled)

/-- No template is settled by fewer answers than before, or by more. -/
theorem isSettledBy_eq (deletion : IrrelevantDeletion set templates source remaining kept)
    {template : QuestionTemplate} (member : template ∈ templates) :
    template.isSettledBy kept.resolve = template.isSettledBy source.resolve := by
  cases settled : template.isSettledBy source.resolve with
  | true =>
    rw [← settled]
    apply deletion.resolve_deletes.any_eq
    intro answer unbound
    rw [unbound template member settled, Bool.false_and]
  | false =>
    have unanswered := List.any_eq_false.mp settled
    apply List.any_eq_false.mpr
    intro answer found
    exact unanswered answer (deletion.resolve_deletes.sublist.subset found)

/-- The answered templates are those of before, in the same order. -/
theorem answered_eq (deletion : IrrelevantDeletion set templates source remaining kept) :
    (remaining.filter fun template => template.isSettledBy kept.resolve) =
      templates.filter fun template => template.isSettledBy source.resolve := by
  calc (remaining.filter fun template => template.isSettledBy kept.resolve)
      = remaining.filter fun template => template.isSettledBy source.resolve := by
        apply List.filter_congr
        intro template member
        exact deletion.isSettledBy_eq (deletion.templatesLeft.sublist.subset member)
    _ = templates.filter fun template => template.isSettledBy source.resolve :=
        deletion.templatesLeft.filter_eq fun _ unsettled => unsettled

/-- Every binding is made as before, at the same place among the bindings. -/
theorem referenceSteps_eq (deletion : IrrelevantDeletion set templates source remaining kept) :
    referenceSteps set remaining kept.resolve = referenceSteps set templates source.resolve := by
  have answered := deletion.answered_eq
  simp only [QuestionTemplate.isSettledBy] at answered
  simp only [referenceSteps, answered]
  apply List.flatMap_congr
  intro template selected
  obtain ⟨member, settled⟩ := List.mem_filter.mp selected
  have bound : kept.resolve.filter template.isAnsweredBy =
      source.resolve.filter template.isAnsweredBy :=
    deletion.resolve_deletes.filter_eq fun answer unbound => unbound template member settled
  rw [bound]

end IrrelevantDeletion

/-- Deleting input that can have no part in the graph leaves the graph as it is, its collected
statements with their order and repetitions included. All counts of the build stay as well, those of
the bindings, of the minted subjects and of the answered templates among them; only the loaded
templates and answers are fewer. -/
theorem Build.ofParts_of_deletion (identifiers : Identifiers) {set : PatternSet}
    {templates remaining : List QuestionTemplate} {source kept : AnswerSource}
    (deletion : IrrelevantDeletion set templates source remaining kept) :
    let before := Build.ofParts identifiers set templates source
    let after := Build.ofParts identifiers set remaining kept
    after.graph = before.graph ∧
      after.counts.mintedSubjects = before.counts.mintedSubjects ∧
      after.counts.bindings = before.counts.bindings ∧
      after.counts = { before.counts with
        templates := remaining.length
        answers := kept.answers.length } := by
  have steps : (Matching.of set remaining kept.resolve).bindingSteps =
      (Matching.of set templates source.resolve).bindingSteps := by
    rw [Matching.bindingSteps_of, deletion.referenceSteps_eq, ← Matching.bindingSteps_of]
  have answered : (Matching.of set remaining kept.resolve).answered.length =
      (Matching.of set templates source.resolve).answered.length := by
    rw [Matching.length_answered_of, deletion.answered_eq, ← Matching.length_answered_of]
  simp only [Build.ofParts, steps, answered, true_and, BuildCounts.mk.injEq]
  simp [Matching.of, AnswerSource.resolve]

namespace Workshop

/-- Every answer about a process is a step. -/
def steps : PatternSet where
  namespaces := {}
  variableTable := { base := "urn:v/" }
  patterns := [[⟨[.placeholder, .resource "urn:is", .resource "urn:step"]⟩]]
  blocks := [{ condition := ⟨["Process"], .only⟩, pattern := 0, line := 1 }]

def drilling : QuestionTemplate := { broaderType := "Process", specificType := "Drilling" }

def milling : QuestionTemplate := { broaderType := "Process", specificType := "Milling" }

def millingSource : AnswerSource where
  knowledgeObjects := [{ id := 8, category := "Process" }]
  answers := [{ detailIds := [2], templateNames := ["Process", "Milling"], finalResult := "done" }]
  details := [{ id := 2, text := "mill", knowledgeObjectIds := [8] }]

/-- A question that is still open stands before the one that is answered, in every list. -/
def source : AnswerSource where
  knowledgeObjects := { id := 7, category := "Process" } :: millingSource.knowledgeObjects
  answers := { detailIds := [1], templateNames := ["Process", "Drilling"], finalResult := "" } ::
    millingSource.answers
  details := { id := 1, text := "drill", knowledgeObjectIds := [7] } :: millingSource.details

theorem drilling_irrelevant :
    IrrelevantDeletion steps [drilling, milling] source [milling] millingSource where
  templatesLeft := .drop (by decide) (.keep _ .nil)
  answersLeft := .drop (by decide) (.keep _ .nil)
  detailsLeft := .drop (by decide) (.keep _ .nil)
  knowledgeObjectsLeft := .drop (by decide) (.keep _ .nil)

end Workshop

/-- The open question takes no number from the answered one: with it and without it, the first
subject is that of the answered question. -/
theorem Build.ofParts_of_deletion_workshop :
    let subject := Term.iri "urn:a/0"
    let before := Build.ofParts { subjectBase := "urn:a/" } Workshop.steps
      [Workshop.drilling, Workshop.milling] Workshop.source
    IrrelevantDeletion Workshop.steps [Workshop.drilling, Workshop.milling] Workshop.source
        [Workshop.milling] Workshop.millingSource ∧
      before.graph.statements =
        [⟨[subject, .iri Vocabulary.rdfsLabel, .literal "mill"]⟩,
          ⟨[subject, .iri "urn:is", .iri "urn:step"]⟩] ∧
      before.counts.mintedSubjects = 1 ∧ before.counts.bindings = 1 := by
  intro subject before
  have left := Build.ofParts_of_deletion { subjectBase := "urn:a/" } Workshop.drilling_irrelevant
  refine ⟨Workshop.drilling_irrelevant, ?_, ?_, ?_⟩
  · rw [← left.1]
    decide +kernel
  · rw [← left.2.1]
    decide +kernel
  · rw [← left.2.2.1]
    decide +kernel

end AnswerGraph
