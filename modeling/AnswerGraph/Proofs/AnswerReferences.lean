import AnswerGraph.Assembly
import Mathlib.Data.List.Forall2

/-!
References between answers, details and knowledge objects. A record refers to others by a list of
ids, and only the ids in it that some record has count: neither their order and repetitions nor ids
that lead nowhere leave a trace. What is resolved is in the order of the records referred to, as
often as they are there.
-/

namespace AnswerGraph

/-! ## All members of a kind -/

/-- What is chosen are the wanted members of a list, in its order and as often as they are in it. -/
structure Selects [DecidableEq α] (wanted : α → Prop) [DecidablePred wanted]
    (all chosen : List α) : Prop where
  ordered : chosen.Sublist all
  count : ∀ member, chosen.count member = if wanted member then all.count member else 0

section Selects

variable [DecidableEq α] {wanted : α → Prop} [DecidablePred wanted] {all chosen : List α}

theorem count_filter_wanted (all : List α) (member : α) :
    (all.filter fun member => decide (wanted member)).count member =
      if wanted member then all.count member else 0 := by
  split
  · next holds => exact List.count_filter (by simpa using holds)
  · next fails =>
    apply List.count_eq_zero_of_not_mem
    intro listed
    exact fails (by simpa using (List.mem_filter.mp listed).2)

theorem Selects.wanted_of_mem (selects : Selects wanted all chosen) :
    ∀ member ∈ chosen, wanted member := by
  intro member listed
  by_contra fails
  have none := selects.count member
  rw [if_neg fails, List.count_eq_zero] at none
  exact none listed

/-- There is one such list: that of the members that pass the test. -/
theorem selects_iff :
    Selects wanted all chosen ↔ chosen = all.filter fun member => decide (wanted member) := by
  constructor
  · intro selects
    have kept : (chosen.filter fun member => decide (wanted member)) = chosen :=
      List.filter_eq_self.mpr fun member listed => by
        simpa using selects.wanted_of_mem member listed
    have ordered := selects.ordered.filter fun member => decide (wanted member)
    rw [kept] at ordered
    refine ordered.eq_of_length (List.Perm.length_eq ?_)
    apply List.perm_iff_count.mpr
    intro member
    rw [selects.count, count_filter_wanted]
  · rintro rfl
    exact ⟨List.filter_sublist, count_filter_wanted all⟩

end Selects

/-- A relation that holds of one value for each member of a list. -/
theorem forall₂_iff_eq_map {relates : α → β → Prop} {f : α → β}
    (unique : ∀ a b, relates a b ↔ b = f a) {members : List α} {values : List β} :
    List.Forall₂ relates members values ↔ values = members.map f := by
  have same : relates = fun a b => f a = b := by
    funext a b
    rw [unique]
    exact propext eq_comm
  rw [same, ← List.forall₂_map_left_iff, List.forall₂_eq_eq_eq, eq_comm]

/-- Members in pairs that are tested alike, and turned into the same values. -/
theorem filter_map_of_forall₂ {relates : α → α → Prop} {f g : α → β} {test : α → Bool}
    (tested : ∀ a b, relates a b → test b = test a) (valued : ∀ a b, relates a b → g b = f a)
    {first second : List α} (pairs : List.Forall₂ relates first second) :
    (second.filter test).map g = (first.filter test).map f := by
  induction pairs with
  | nil => rfl
  | @cons a b _ _ related _ ih =>
    rw [List.filter_cons, List.filter_cons, tested a b related]
    split
    · rw [List.map_cons, List.map_cons, valued a b related, ih]
    · exact ih

namespace AnswerSource

/-! ## What a source is resolved to -/

/-- A detail is that of a record, with the knowledge objects that the record names. -/
def ResolvesDetail (source : AnswerSource) (record : DetailRecord) (detail : Detail) : Prop :=
  detail = { record with knowledgeObjects := detail.knowledgeObjects } ∧
    Selects (fun object : KnowledgeObject => object.id ∈ record.knowledgeObjectIds)
      source.knowledgeObjects detail.knowledgeObjects

/-- An answer is that of a record, with those of the details that the record names. -/
def ResolvesAnswer (details : List Detail) (record : AnswerRecord) (answer : Answer) : Prop :=
  answer = { record with details := answer.details } ∧
    Selects (fun detail : Detail => detail.id ∈ record.detailIds) details answer.details

/-- The details and answers that a source stands for: one of each for every record, in order. -/
structure Resolves (source : AnswerSource) (resolved : List Detail) (answers : List Answer) :
    Prop where
  details : List.Forall₂ source.ResolvesDetail source.details resolved
  answers : List.Forall₂ (ResolvesAnswer resolved) source.answers answers

section Resolves

variable {source : AnswerSource} {resolved : List Detail} {answers : List Answer}

theorem knowledgeObjects_resolveDetail (source : AnswerSource) (record : DetailRecord) :
    (source.resolveDetail record).knowledgeObjects = source.knowledgeObjects.filter fun object =>
      decide (object.id ∈ record.knowledgeObjectIds) := by
  simp only [resolveDetail, List.contains_eq_mem]

theorem details_resolveAnswer (source : AnswerSource) (record : AnswerRecord) :
    (source.resolveAnswer record).details =
      (source.details.map source.resolveDetail).filter fun detail =>
        decide (detail.id ∈ record.detailIds) := by
  simp only [resolveAnswer, List.filter_map, List.contains_eq_mem]
  rfl

theorem resolvesDetail_iff (record : DetailRecord) (detail : Detail) :
    source.ResolvesDetail record detail ↔ detail = source.resolveDetail record := by
  rw [ResolvesDetail, selects_iff, ← knowledgeObjects_resolveDetail]
  constructor
  · rintro ⟨shaped, objects⟩
    rw [shaped, objects]
    rfl
  · rintro rfl
    exact ⟨rfl, rfl⟩

theorem resolvesAnswer_iff (record : AnswerRecord) (answer : Answer) :
    ResolvesAnswer (source.details.map source.resolveDetail) record answer ↔
      answer = source.resolveAnswer record := by
  rw [ResolvesAnswer, selects_iff, ← details_resolveAnswer]
  constructor
  · rintro ⟨shaped, details⟩
    rw [shaped, details]
    rfl
  · rintro rfl
    exact ⟨rfl, rfl⟩

/-- The resolved answers are the only ones that a source stands for. -/
theorem resolves_iff : source.Resolves resolved answers ↔
    resolved = source.details.map source.resolveDetail ∧ answers = source.resolve := by
  constructor
  · rintro ⟨details, answered⟩
    obtain rfl := (forall₂_iff_eq_map resolvesDetail_iff).mp details
    exact ⟨rfl, (forall₂_iff_eq_map resolvesAnswer_iff).mp answered⟩
  · rintro ⟨rfl, rfl⟩
    exact ⟨(forall₂_iff_eq_map resolvesDetail_iff).mpr rfl,
      (forall₂_iff_eq_map resolvesAnswer_iff).mpr rfl⟩

end Resolves

/-! ## Other lists of the same references -/

/-- The second source has other lists of ids in its records, which name the same knowledge objects
and details. -/
structure SameReferences (first second : AnswerSource) : Prop where
  knowledgeObjects : second.knowledgeObjects = first.knowledgeObjects
  details : List.Forall₂ (fun record other =>
      ∃ ids, other = { record with knowledgeObjectIds := ids } ∧
        ∀ object ∈ first.knowledgeObjects,
          (object.id ∈ ids ↔ object.id ∈ record.knowledgeObjectIds))
    first.details second.details
  answers : List.Forall₂ (fun record other =>
      ∃ ids, other = { record with detailIds := ids } ∧
        ∀ detail ∈ first.details, (detail.id ∈ ids ↔ detail.id ∈ record.detailIds))
    first.answers second.answers

namespace SameReferences

variable {first second : AnswerSource}

theorem resolveDetail_eq (same : SameReferences first second) {record other : DetailRecord}
    {ids : List Int} (replaced : other = { record with knowledgeObjectIds := ids })
    (named : ∀ object ∈ first.knowledgeObjects,
      (object.id ∈ ids ↔ object.id ∈ record.knowledgeObjectIds)) :
    second.resolveDetail other = first.resolveDetail record := by
  subst other
  have objects : (second.resolveDetail { record with knowledgeObjectIds := ids }).knowledgeObjects =
      (first.resolveDetail record).knowledgeObjects := by
    rw [knowledgeObjects_resolveDetail, knowledgeObjects_resolveDetail, same.knowledgeObjects]
    apply List.filter_congr
    intro object member
    exact decide_eq_decide.mpr (named object member)
  rw [resolveDetail, Detail.mk.injEq]
  exact ⟨rfl, rfl, rfl, rfl, rfl, objects⟩

/-- Details are compared by their own ids, which are not replaced. -/
theorem resolveAnswer_eq (same : SameReferences first second) {record other : AnswerRecord}
    {ids : List Int} (replaced : other = { record with detailIds := ids })
    (named : ∀ detail ∈ first.details, (detail.id ∈ ids ↔ detail.id ∈ record.detailIds)) :
    second.resolveAnswer other = first.resolveAnswer record := by
  subst other
  have details : (second.resolveAnswer { record with detailIds := ids }).details =
      (first.resolveAnswer record).details := by
    calc ((second.details.filter fun detail => ids.contains detail.id).map second.resolveDetail)
        = (first.details.filter fun detail => ids.contains detail.id).map first.resolveDetail := by
          refine filter_map_of_forall₂ ?_ ?_ same.details
          · rintro detail _ ⟨others, rfl, -⟩
            rfl
          · rintro detail other ⟨others, replaced, alike⟩
            exact same.resolveDetail_eq replaced alike
      _ = (first.details.filter fun detail => record.detailIds.contains detail.id).map
            first.resolveDetail := by
          congr 1
          apply List.filter_congr
          intro detail member
          rw [List.contains_eq_mem, List.contains_eq_mem]
          exact decide_eq_decide.mpr (named detail member)
  rw [resolveAnswer, Answer.mk.injEq]
  exact ⟨details, rfl, rfl⟩

theorem resolve_eq (same : SameReferences first second) : second.resolve = first.resolve := by
  symm
  rw [resolve, resolve, ← List.forall₂_eq_eq_eq, List.forall₂_map_left_iff,
    List.forall₂_map_right_iff]
  refine same.answers.imp ?_
  rintro record other ⟨ids, replaced, named⟩
  exact (same.resolveAnswer_eq replaced named).symm

end SameReferences

/-- What a source is resolved to, and that it depends on the references as sets only. The resolved
answers are the only ones that a source stands for. If another source has other lists of ids that
name the same details and knowledge objects, then it is resolved to the same answers, and all builds
are the same, whether of the sources or of files and texts that hold them. -/
theorem resolve_of_sameReferences {first second : AnswerSource}
    (same : SameReferences first second) :
    (∀ answers, (∃ resolved, first.Resolves resolved answers) ↔ answers = first.resolve) ∧
      second.resolve = first.resolve ∧
      (∀ identifiers set templates,
        Build.ofParts identifiers set templates second =
          Build.ofParts identifiers set templates first) ∧
      ∀ identifiers files answers others templates patterns,
        Source.loadAnswers files answers = .ok first →
        Source.loadAnswers files others = .ok second →
        Build.ofSources identifiers files others templates patterns =
          Build.ofSources identifiers files answers templates patterns := by
  have builds (identifiers : Identifiers) (set : PatternSet) (templates : List QuestionTemplate) :
      Build.ofParts identifiers set templates second =
        Build.ofParts identifiers set templates first := by
    rw [Build.ofParts, Build.ofParts, same.resolve_eq]
  refine ⟨?_, same.resolve_eq, builds, ?_⟩
  · intro answers
    constructor
    · rintro ⟨resolved, resolves⟩
      exact (resolves_iff.mp resolves).2
    · rintro rfl
      exact ⟨_, resolves_iff.mpr ⟨rfl, rfl⟩⟩
  · intro identifiers files answers others templates patterns loaded reloaded
    rw [Build.ofSources, Build.ofSources, loaded, reloaded]
    simp only [Except.mapError, Bind.bind, Except.bind, builds]

/-! ## A source with its references in another order -/

/-- Two processes and their details, of which one is there twice, with the ids that an answer and
a detail refer to. -/
def machining (detailIds objectIds : List Int) : AnswerSource where
  knowledgeObjects := [⟨7, "Process", ["milling"], []⟩, ⟨8, "Process", ["drilling"], []⟩]
  answers := [⟨detailIds, ["Process", "Method"], "Milling"⟩]
  details := [⟨2, "Drilling", 3, [8], 1, "text"⟩, ⟨1, "Milling", 3, objectIds, 1, "text"⟩,
    ⟨2, "Drilling", 3, [8], 1, "text"⟩]

/-- Repeated ids, others that lead nowhere and another order make no difference. -/
theorem resolve_of_sameReferences_machining :
    SameReferences (machining [1, 2, 99] [8, 7, 42]) (machining [2, 1, 1, 2] [7, 7, 8]) ∧
      (machining [2, 1, 1, 2] [7, 7, 8]).resolve = (machining [1, 2, 99] [8, 7, 42]).resolve ∧
      ((machining [1, 2, 99] [8, 7, 42]).resolve.map fun answer =>
        answer.details.map (·.id)) = [[2, 1, 2]] := by
  have same :
      SameReferences (machining [1, 2, 99] [8, 7, 42]) (machining [2, 1, 1, 2] [7, 7, 8]) := by
    refine ⟨rfl, .cons ⟨_, rfl, ?_⟩ (.cons ⟨_, rfl, ?_⟩ (.cons ⟨_, rfl, ?_⟩ .nil)),
      .cons ⟨_, rfl, ?_⟩ .nil⟩
    all_goals decide
  exact ⟨same, (resolve_of_sameReferences same).2.1, by decide⟩

end AnswerSource

end AnswerGraph
