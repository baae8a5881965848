import AnswerGraph.Matching
import AnswerGraph.Proofs.KeyIndex
import Mathlib.Data.List.Range

/-!
Links between templates and answers. Matching takes one answer after the other past all templates
and notes each hit on both sides. After every answer the two sides hold the same links, in the
order of the numbers, and each side alone is a search of the other one's list.
-/

namespace AnswerGraph

/-! ## Positions -/

section

variable {α : Type} (test : α → Bool) (members : List α)

theorem mem_positionsOf {number : Nat} :
    number ∈ positionsOf test members ↔ ∃ member, members[number]? = some member ∧ test member := by
  rw [positionsOf, List.mem_map]
  constructor
  · rintro ⟨⟨member, _⟩, kept, rfl⟩
    obtain ⟨placed, passes⟩ := List.mem_filter.mp kept
    exact ⟨member, List.mem_zipIdx_iff_getElem?.mp placed, passes⟩
  · rintro ⟨member, placed, passes⟩
    have listed : (member, number) ∈ members.zipIdx := List.mem_zipIdx_iff_getElem?.mpr placed
    exact ⟨(member, number), List.mem_filter.mpr ⟨listed, passes⟩, rfl⟩

theorem positionsOf_increasing : (positionsOf test members).Pairwise (· < ·) := by
  have chosen : (positionsOf test members).Sublist (members.zipIdx.map Prod.snd) :=
    List.filter_sublist.map Prod.snd
  apply List.Pairwise.sublist chosen
  rw [List.zipIdx_map_snd]
  exact List.pairwise_lt_range'

theorem positionsOf_append (more : List α) :
    positionsOf test (members ++ more) = positionsOf test members ++
      ((more.zipIdx members.length).filter fun (member, _) => test member).map Prod.snd := by
  rw [positionsOf, List.zipIdx_append, List.filter_append, List.map_append, Nat.zero_add]
  rfl

end

/-! ## Matching answer by answer -/

/-- A template that an answer is taken past. -/
def MatchedTemplate.meet (matched : MatchedTemplate) (number : Nat) (answer : Answer) :
    MatchedTemplate :=
  if matched.template.isAnsweredBy answer then
    { matched with
      answers := matched.answers ++ [number]
      hasFinalAnswer := matched.hasFinalAnswer || answer.hasFinalResult }
  else matched

namespace Matching

/-- Takes an answer past templates numbered from `position` on; the numbers of those that it
answers are collected. -/
def meetAll (number : Nat) (answer : Answer) (position : Nat) :
    List MatchedTemplate → List MatchedTemplate × List Nat
  | [] => ([], [])
  | matched :: rest =>
    let (later, found) := meetAll number answer (position + 1) rest
    (matched.meet number answer :: later,
      if matched.template.isAnsweredBy answer then position :: found else found)

/-- Links the next answer. -/
def link (matching : Matching) (answer : Answer) : Matching :=
  let (templates, found) := meetAll matching.answers.length answer 0 matching.templates
  { templates, answers := matching.answers ++ [{ answer, templates := found }] }

/-- The templates with their patterns, before the first answer. -/
def start (set : PatternSet) (templates : List QuestionTemplate) : Matching :=
  { templates := templates.map fun template => {
      template
      patterns := template.attachedPatterns set
      answers := []
      hasFinalAnswer := false }
    answers := [] }

theorem meetAll_eq (number : Nat) (answer : Answer) (position : Nat)
    (templates : List MatchedTemplate) :
    meetAll number answer position templates =
      (templates.map (·.meet number answer),
        ((templates.zipIdx position).filter fun (matched, _) =>
          matched.template.isAnsweredBy answer).map Prod.snd) := by
  induction templates generalizing position with
  | nil => rfl
  | cons matched rest ih =>
    rw [meetAll, ih, List.zipIdx_cons, List.filter_cons]
    dsimp only
    by_cases hits : matched.template.isAnsweredBy answer = true
    · rw [if_pos hits, if_pos hits]
      rfl
    · rw [if_neg hits, if_neg hits]
      rfl

variable (set : PatternSet) (templates : List QuestionTemplate)

/-- A template that has met some answers meets one more. -/
theorem meet_matchTemplate (answers : List Answer) (answer : Answer) (template : QuestionTemplate) :
    (matchTemplate set answers template).meet answers.length answer =
      matchTemplate set (answers ++ [answer]) template := by
  have numbers := positionsOf_append template.isAnsweredBy answers [answer]
  rw [MatchedTemplate.meet, matchTemplate, matchTemplate, numbers, List.any_append]
  cases read : template.isAnsweredBy answer <;> simp [read]

/-- Linking one more answer to a finished matching is matching one more answer. -/
theorem link_of (answers : List Answer) (answer : Answer) :
    (Matching.of set templates answers).link answer =
      Matching.of set templates (answers ++ [answer]) := by
  have found : (((templates.map (matchTemplate set answers)).zipIdx 0).filter fun (matched, _) =>
        matched.template.isAnsweredBy answer).map Prod.snd =
      positionsOf (·.isAnsweredBy answer) templates := by
    rw [positionsOf, List.zipIdx_map, List.filter_map, List.map_map]
    rfl
  rw [link, meetAll_eq]
  simp only [Matching.of, found, List.length_map, List.map_map, List.map_append, List.map_singleton]
  congr 1
  exact List.map_congr_left fun template _ => meet_matchTemplate set answers answer template

theorem of_eq_foldl_link (answers : List Answer) :
    Matching.of set templates answers = answers.foldl link (start set templates) := by
  induction answers using List.reverseRecOn with
  | nil => rfl
  | append_singleton answers answer ih =>
    rw [List.foldl_append, ← ih, ← link_of]
    rfl

/-! ## Both sides of the links -/

/-- Both sides of a matching hold the same links. -/
structure Agrees (templates : List QuestionTemplate) (answers : List Answer)
    (matching : Matching) : Prop where
  templates : matching.templates.map MatchedTemplate.template = templates
  answers : matching.answers.map MatchedAnswer.answer = answers
  /-- A link is noted with the template just if it is noted with the answer. -/
  paired : ∀ (i j : Nat) matched found, matching.templates[i]? = some matched →
    matching.answers[j]? = some found → (j ∈ matched.answers ↔ i ∈ found.templates)
  /-- What is linked are the answers whose names include both types. -/
  linked : ∀ matched ∈ matching.templates, ∀ (j : Nat) found,
    matching.answers[j]? = some found → (j ∈ matched.answers ↔
      matched.template.broaderType ∈ found.answer.templateNames ∧
        matched.template.specificType ∈ found.answer.templateNames)
  answersIncreasing : ∀ matched ∈ matching.templates, matched.answers.Pairwise (· < ·)
  templatesIncreasing : ∀ found ∈ matching.answers, found.templates.Pairwise (· < ·)
  final : ∀ matched ∈ matching.templates, matched.hasFinalAnswer = true ↔
    ∃ j ∈ matched.answers, ∃ found, matching.answers[j]? = some found ∧
      found.answer.finalResult ≠ ""
  /-- The answers that no template lists, in their order. -/
  unmatched : matching.unmatchedAnswers = (matching.answers.zipIdx.filter fun (_, j) =>
    decide (∀ matched ∈ matching.templates, j ∉ matched.answers)).map Prod.fst
  answersInRange : ∀ matched ∈ matching.templates, ∀ j ∈ matched.answers,
    j < matching.answers.length
  templatesInRange : ∀ found ∈ matching.answers, ∀ i ∈ found.templates,
    i < matching.templates.length

variable {set templates}

theorem isAnsweredBy_iff {template : QuestionTemplate} {answer : Answer} :
    template.isAnsweredBy answer = true ↔
      template.broaderType ∈ answer.templateNames ∧
        template.specificType ∈ answer.templateNames := by
  rw [QuestionTemplate.isAnsweredBy, Answer.refersTo, Bool.and_eq_true, List.contains_iff_mem,
    List.contains_iff_mem]

section

variable {answers : List Answer} {template : QuestionTemplate} {answer : Answer} {i j : Nat}

theorem mem_matchTemplate_answers : j ∈ (matchTemplate set answers template).answers ↔
    ∃ answer, answers[j]? = some answer ∧ template.isAnsweredBy answer = true :=
  mem_positionsOf template.isAnsweredBy answers

theorem mem_matchAnswer_templates : i ∈ (matchAnswer templates answer).templates ↔
    ∃ template, templates[i]? = some template ∧ template.isAnsweredBy answer = true :=
  mem_positionsOf (fun template => template.isAnsweredBy answer) templates

end

section

variable {answers : List Answer} {i j : Nat} {matched : MatchedTemplate} {found : MatchedAnswer}

/-- A link is noted with a template if the template is answered by what the number names. -/
theorem mem_answers_iff (listed : matched ∈ (Matching.of set templates answers).templates)
    (placed : (Matching.of set templates answers).answers[j]? = some found) :
    j ∈ matched.answers ↔ matched.template.isAnsweredBy found.answer = true := by
  obtain ⟨template, _, rfl⟩ := List.mem_map.mp listed
  obtain ⟨answer, there, rfl⟩ := Option.map_eq_some_iff.mp (List.getElem?_map.symm.trans placed)
  rw [mem_matchTemplate_answers, there]
  simp [matchTemplate, matchAnswer]

/-- A link is noted with an answer if it answers the template that the number names. -/
theorem mem_templates_iff (listed : found ∈ (Matching.of set templates answers).answers)
    (placed : (Matching.of set templates answers).templates[i]? = some matched) :
    i ∈ found.templates ↔ matched.template.isAnsweredBy found.answer = true := by
  obtain ⟨answer, _, rfl⟩ := List.mem_map.mp listed
  obtain ⟨template, there, rfl⟩ := Option.map_eq_some_iff.mp (List.getElem?_map.symm.trans placed)
  rw [mem_matchAnswer_templates, there]
  simp [matchTemplate, matchAnswer]

theorem lt_length_answers (listed : matched ∈ (Matching.of set templates answers).templates)
    (noted : j ∈ matched.answers) : j < (Matching.of set templates answers).answers.length := by
  obtain ⟨template, _, rfl⟩ := List.mem_map.mp listed
  obtain ⟨answer, placed, -⟩ := mem_matchTemplate_answers.mp noted
  rw [Matching.of, List.length_map]
  exact (List.getElem?_eq_some_iff.mp placed).1

theorem lt_length_templates (listed : found ∈ (Matching.of set templates answers).answers)
    (noted : i ∈ found.templates) : i < (Matching.of set templates answers).templates.length := by
  obtain ⟨answer, _, rfl⟩ := List.mem_map.mp listed
  obtain ⟨template, placed, -⟩ := mem_matchAnswer_templates.mp noted
  rw [Matching.of, List.length_map]
  exact (List.getElem?_eq_some_iff.mp placed).1

/-- An answer without templates is one that no template lists. -/
theorem templates_eq_nil_iff
    (placed : (Matching.of set templates answers).answers[j]? = some found) :
    found.templates = [] ↔
      ∀ matched ∈ (Matching.of set templates answers).templates, j ∉ matched.answers := by
  have listed := List.mem_of_getElem? placed
  rw [List.eq_nil_iff_forall_not_mem]
  constructor
  · intro without matched there noted
    obtain ⟨i, position⟩ := List.mem_iff_getElem?.mp there
    have hit := (mem_answers_iff there placed).mp noted
    exact without i ((mem_templates_iff listed position).mpr hit)
  · intro unnoted i inside
    have position := List.getElem?_eq_getElem (lt_length_templates listed inside)
    have there := List.mem_of_getElem? position
    have hit := (mem_templates_iff listed position).mp inside
    exact unnoted _ there ((mem_answers_iff there placed).mpr hit)

theorem hasFinalAnswer_iff (listed : matched ∈ (Matching.of set templates answers).templates) :
    matched.hasFinalAnswer = true ↔ ∃ j ∈ matched.answers, ∃ found,
      (Matching.of set templates answers).answers[j]? = some found ∧
        found.answer.finalResult ≠ "" := by
  obtain ⟨template, _, rfl⟩ := List.mem_map.mp listed
  have filled (answer : Answer) : answer.hasFinalResult = true ↔ answer.finalResult ≠ "" := by
    simp [Answer.hasFinalResult]
  constructor
  · intro final
    obtain ⟨answer, inside, hit⟩ := List.any_eq_true.mp final
    obtain ⟨answered, settles⟩ := Bool.and_eq_true_iff.mp hit
    obtain ⟨j, placed⟩ := List.mem_iff_getElem?.mp inside
    refine ⟨j, mem_matchTemplate_answers.mpr ⟨answer, placed, answered⟩,
      matchAnswer templates answer, ?_, (filled answer).mp settles⟩
    rw [Matching.of, List.getElem?_map, placed, Option.map_some]
  · rintro ⟨j, noted, found, placed, settles⟩
    obtain ⟨answer, there, answered⟩ := mem_matchTemplate_answers.mp noted
    obtain ⟨_, same, rfl⟩ := Option.map_eq_some_iff.mp (List.getElem?_map.symm.trans placed)
    cases there.symm.trans same
    apply List.any_eq_true.mpr
    refine ⟨answer, List.mem_of_getElem? there, Bool.and_eq_true_iff.mpr ⟨answered, ?_⟩⟩
    exact (filled answer).mpr settles

end

theorem unmatchedAnswers_of (answers : List Answer) :
    (Matching.of set templates answers).unmatchedAnswers =
      ((Matching.of set templates answers).answers.zipIdx.filter fun (_, j) =>
        decide (∀ matched ∈ (Matching.of set templates answers).templates,
          j ∉ matched.answers)).map Prod.fst := by
  generalize whole : Matching.of set templates answers = matching
  have alike : ∀ entry ∈ matching.answers.zipIdx,
      entry.1.templates.isEmpty =
        decide (∀ matched ∈ matching.templates, entry.2 ∉ matched.answers) := by
    intro entry listed
    subst whole
    rw [Bool.eq_iff_iff, List.isEmpty_iff, decide_eq_true_iff]
    exact templates_eq_nil_iff (List.mem_zipIdx_iff_getElem?.mp listed)
  calc matching.unmatchedAnswers
      = (matching.answers.zipIdx.map Prod.fst).filter (·.templates.isEmpty) := by
        rw [List.zipIdx_map_fst, unmatchedAnswers]
    _ = (matching.answers.zipIdx.filter fun entry => entry.1.templates.isEmpty).map Prod.fst := by
        rw [List.filter_map]
        rfl
    _ = _ := by rw [List.filter_congr alike]

theorem agrees_of (set : PatternSet) (templates : List QuestionTemplate) (answers : List Answer) :
    (Matching.of set templates answers).Agrees templates answers := by
  constructor
  case templates =>
    rw [Matching.of, List.map_map]
    exact List.map_id templates
  case answers =>
    rw [Matching.of, List.map_map]
    exact List.map_id answers
  case paired =>
    intro i j matched found templatePlaced answerPlaced
    rw [mem_answers_iff (List.mem_of_getElem? templatePlaced) answerPlaced,
      mem_templates_iff (List.mem_of_getElem? answerPlaced) templatePlaced]
  case linked =>
    intro matched listed j found placed
    rw [mem_answers_iff listed placed, isAnsweredBy_iff]
  case answersIncreasing =>
    intro matched listed
    obtain ⟨template, _, rfl⟩ := List.mem_map.mp listed
    exact positionsOf_increasing template.isAnsweredBy answers
  case templatesIncreasing =>
    intro found listed
    obtain ⟨answer, _, rfl⟩ := List.mem_map.mp listed
    exact positionsOf_increasing (fun template => template.isAnsweredBy answer) templates
  case final => exact fun matched listed => hasFinalAnswer_iff listed
  case unmatched => exact unmatchedAnswers_of answers
  case answersInRange => exact fun matched listed j noted => lt_length_answers listed noted
  case templatesInRange => exact fun found listed i noted => lt_length_templates listed noted

end Matching

/-! ## The patterns of a template -/

/-- A set that was compiled from a text, with any of its patterns replaced since. -/
inductive PatternSet.Obtained : PatternSet → Prop
  | compiled {base text : String} {set : PatternSet} (read : ofText base text = .ok set) :
    Obtained set
  | replaced {set : PatternSet} (before : Obtained set) (number : Nat) (lines : TriplePattern) :
    Obtained { set with patterns := set.patterns.set number lines }

theorem PatternSet.Obtained.isNumbered {set : PatternSet} (obtained : set.Obtained) :
    set.IsNumbered := by
  induction obtained with
  | compiled read => exact isNumbered_of_ofText read
  | replaced _ number lines ih =>
    rw [IsNumbered, size, List.length_set]
    exact ih

theorem QuestionTemplate.attachedPatterns_lt {set : PatternSet} (numbered : set.IsNumbered)
    (template : QuestionTemplate) {number : Nat}
    (attached : number ∈ template.attachedPatterns set) : number < set.size := by
  obtain ⟨block, kept, rfl⟩ := List.mem_map.mp attached
  have listed : block.pattern ∈ set.blocks.map Block.pattern :=
    List.mem_map_of_mem (List.mem_of_mem_filter kept)
  rw [numbered] at listed
  exact List.mem_range.mp listed

namespace Matching

/-- Templates and answers keep their numbers, and both sides hold the same links, in the order of
the numbers: those to the answers that name both types of a template. A template has a final answer
just if one of its answers has a result, the unmatched answers are those that no template lists, and
every number names a template, an answer or a pattern. Matching answer by answer comes to this after
each of them. -/
theorem links_agree {set : PatternSet} (obtained : set.Obtained)
    (templates : List QuestionTemplate) (answers : List Answer) :
    let matching := Matching.of set templates answers
    matching = answers.foldl link (start set templates) ∧ matching.Agrees templates answers ∧
      ∀ matched ∈ matching.templates, ∀ number ∈ matched.patterns, number < set.size := by
  refine ⟨of_eq_foldl_link set templates answers, agrees_of set templates answers, ?_⟩
  intro matched listed number attached
  obtain ⟨template, _, rfl⟩ := List.mem_map.mp listed
  exact template.attachedPatterns_lt obtained.isNumbered attached

/-- Two templates with the same types, the other way round. -/
def swappedTemplates : List QuestionTemplate :=
  [{ broaderType := "A", specificType := "B" }, { broaderType := "B", specificType := "A" }]

/-- The first answer names one type only; the second repeats a name. -/
def swappedAnswers : List Answer := [
  { details := [], templateNames := ["A"], finalResult := "x" },
  { details := [], templateNames := ["B", "A", "B"], finalResult := "" },
  { details := [], templateNames := ["A", "B"], finalResult := "y" }]

theorem links_agree_swapped :
    let matching := Matching.of PatternSet.sharedKeySet swappedTemplates swappedAnswers
    PatternSet.sharedKeySet.Obtained ∧
      matching.templates.map (fun matched => (matched.answers, matched.hasFinalAnswer)) =
        [([1, 2], true), ([1, 2], true)] ∧
      matching.answers.map MatchedAnswer.templates = [[], [0, 1], [0, 1]] ∧
      matching.Agrees swappedTemplates swappedAnswers ∧
      ∀ matched ∈ matching.templates, ∀ number ∈ matched.patterns,
        number < PatternSet.sharedKeySet.size := by
  have compiled : PatternSet.ofText Variables.defaultBase PatternSet.sharedKey =
      .ok PatternSet.sharedKeySet := by decide +kernel
  have obtained : PatternSet.sharedKeySet.Obtained := .compiled compiled
  obtain ⟨-, agrees, inRange⟩ := links_agree obtained swappedTemplates swappedAnswers
  exact ⟨obtained, by decide, by decide, agrees, inRange⟩

end Matching

end AnswerGraph
