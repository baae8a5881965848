import AnswerGraph.Graph.Output
import AnswerGraph.Proofs.Firsts

/-!
What a list of statements that is RDF consists of: its triples are the statements themselves, and
all their IRIs are absolute.
-/

namespace AnswerGraph

/-- An absolute IRI has none of the characters that cannot stand between angle brackets. -/
theorem isForbiddenInIri_eq_false {value : String} (sound : isAbsoluteIri value = true) :
    ∀ c ∈ value.toList, isForbiddenInIri c = false := by
  rw [isAbsoluteIri, Bool.and_eq_true, Bool.not_eq_true', List.any_eq_false] at sound
  intro c member
  exact Bool.eq_false_iff.mpr (sound.1 c member)

namespace Triple

def statement (triple : Triple) : Statement :=
  ⟨[triple.subject, triple.predicate, triple.object]⟩

theorem statement_injective (triple other : Triple) (same : triple.statement = other.statement) :
    triple = other := by
  cases triple
  cases other
  simpa [statement] using same

/-- Subject and predicate are IRIs, and every IRI is absolute. -/
structure Sound (triple : Triple) : Prop where
  subject : triple.subject.isIri = true ∧ triple.subject.isSound = true
  predicate : triple.predicate.isIri = true ∧ triple.predicate.isSound = true
  object : triple.object.isSound = true

theorem Sound.exists_iris {subject predicate object : Term}
    (sound : Sound ⟨subject, predicate, object⟩) :
    ∃ name verb, subject = .iri name ∧ predicate = .iri verb := by
  cases subject with
  | literal value => cases sound.subject.1
  | iri name =>
    cases predicate with
    | literal value => cases sound.predicate.1
    | iri verb => exact ⟨name, verb, rfl, rfl⟩

end Triple

namespace Rdf

/-- A statement without problems is a sound triple. -/
theorem exists_sound {statement : Statement} (sound : statement.problem? = none) :
    ∃ triple : Triple, triple.Sound ∧ triple.statement = statement ∧
      statement.triple? = some (triple.subject, triple.predicate, triple.object) := by
  obtain ⟨terms⟩ := statement
  match terms with
  | [] | [_] | [_, _] | _ :: _ :: _ :: _ :: _ =>
    simp [Statement.problem?, Statement.triple?] at sound
  | [subject, predicate, object] =>
    simp only [Statement.problem?, Statement.triple?] at sound
    split at sound
    · cases sound
    split at sound
    · cases sound
    split at sound
    · next iri predicateIri all =>
      simp only [Bool.and_eq_true] at all
      refine ⟨⟨subject, predicate, object⟩, ⟨⟨?_, all.1.1⟩, ⟨?_, all.1.2⟩, all.2⟩, rfl, rfl⟩
      · simpa using iri
      · simpa using predicateIri
    · cases sound

theorem check_eq_ok {statements : List Statement} {found : List Triple}
    (accepted : check statements = .ok found) :
    found.map Triple.statement = statements ∧ ∀ triple ∈ found, triple.Sound := by
  induction statements generalizing found with
  | nil =>
    cases accepted
    exact ⟨rfl, fun triple member => nomatch member⟩
  | cons statement rest ih =>
    rw [check] at accepted
    cases problem : statement.problem? with
    | some problem =>
      rw [problem] at accepted
      cases accepted
    | none =>
      obtain ⟨triple, sound, rfl, shape⟩ := exists_sound problem
      rw [problem, shape] at accepted
      cases more : check rest with
      | error fault =>
        rw [more] at accepted
        cases accepted
      | ok others =>
        rw [more] at accepted
        cases accepted
        obtain ⟨same, all⟩ := ih more
        refine ⟨by rw [List.map_cons, same], fun other member => ?_⟩
        rcases List.mem_cons.mp member with rfl | member
        · exact sound
        · exact all other member

/-- The triples of accepted statements are their first occurrences, and all of them are sound. -/
theorem triples_eq_ok {statements : List Statement} {found : List Triple}
    (accepted : triples statements = .ok found) :
    found.map Triple.statement = firsts statements ∧ ∀ triple ∈ found, triple.Sound := by
  rw [triples] at accepted
  cases checked : check statements with
  | error fault =>
    rw [checked] at accepted
    cases accepted
  | ok all =>
    rw [checked] at accepted
    cases accepted
    obtain ⟨same, sound⟩ := check_eq_ok checked
    refine ⟨by rw [← firsts_map Triple.statement_injective, same], fun triple member => ?_⟩
    exact sound triple ((mem_firsts all triple).mp member)

/-- The subjects of accepted statements are those of their triples. -/
theorem subjects_of_accepted {statements : List Statement} {found : List Triple}
    (accepted : triples statements = .ok found) :
    firsts (found.map Triple.subject) = firsts (statements.filterMap Statement.subject?) := by
  have chosen : found.map Triple.subject =
      (found.map Triple.statement).filterMap Statement.subject? := by
    rw [List.filterMap_map, ← List.filterMap_eq_map]
    rfl
  rw [chosen, (triples_eq_ok accepted).1, firsts_filterMap]

/-- A subject is listed with exactly its own triples. -/
theorem mem_bySubject {triples own : List Triple} {subject : Term}
    (listed : (subject, own) ∈ bySubject triples) :
    ∀ triple, triple ∈ own ↔ triple ∈ triples ∧ triple.subject = subject := by
  obtain ⟨found, _, same⟩ := List.mem_map.mp listed
  cases same
  simp

theorem exists_bySubject {triples : List Triple} {triple : Triple} (member : triple ∈ triples) :
    ∃ own, (triple.subject, own) ∈ bySubject triples := by
  have listed : triple.subject ∈ firsts (triples.map Triple.subject) :=
    (mem_firsts _ _).mpr (List.mem_map.mpr ⟨triple, member, rfl⟩)
  exact ⟨_, List.mem_map.mpr ⟨triple.subject, listed, rfl⟩⟩

/-- No subject is listed without triples. -/
theorem exists_of_bySubject {triples own : List Triple} {subject : Term}
    (listed : (subject, own) ∈ bySubject triples) : ∃ triple ∈ own, triple.subject = subject := by
  obtain ⟨found, member, same⟩ := List.mem_map.mp listed
  obtain ⟨triple, inside, rfl⟩ := List.mem_map.mp ((mem_firsts _ _).mp member)
  cases same
  exact ⟨triple, List.mem_filter.mpr ⟨inside, beq_self_eq_true _⟩, rfl⟩

/-- What is true of the triples of all subjects is true of all triples. -/
theorem forall_bySubject_iff {triples : List Triple} {P : Triple → Prop} :
    (∀ group ∈ bySubject triples, ∀ triple ∈ group.2, P triple) ↔ ∀ triple ∈ triples, P triple := by
  constructor
  · intro all triple member
    obtain ⟨own, listed⟩ := exists_bySubject member
    exact all _ listed triple ((mem_bySubject listed triple).mpr ⟨member, rfl⟩)
  · intro all group listed triple member
    exact all triple ((mem_bySubject listed triple).mp member).1

theorem subjects_bySubject (triples : List Triple) :
    (bySubject triples).map (·.1) = firsts (triples.map Triple.subject) := by
  rw [bySubject, List.map_map]
  exact List.map_id _

/-- Members that are picked by their keys, key by key, are those with any of the keys. -/
theorem perm_flatMap_filter {β : Type} [DecidableEq β] (key : α → β) {keys : List β}
    (distinct : keys.Nodup) (members : List α) :
    (keys.flatMap fun own => members.filter (key · == own)).Perm
      (members.filter fun member => keys.contains (key member)) := by
  induction keys with
  | nil => simp
  | cons own rest ih =>
    obtain ⟨fresh, distinct⟩ := List.nodup_cons.mp distinct
    -- The members with the first key are split off from those with any of the keys.
    have listed := List.filter_append_perm (key · == own)
      (members.filter fun member => (own :: rest).contains (key member))
    have first : (members.filter fun member => (own :: rest).contains (key member)).filter
        (key · == own) = members.filter (key · == own) := by
      rw [List.filter_filter]
      apply List.filter_congr
      intro member _
      by_cases same : key member = own <;> simp [same]
    have others : (members.filter fun member => (own :: rest).contains (key member)).filter
        (fun member => !(key member == own)) =
        members.filter fun member => rest.contains (key member) := by
      rw [List.filter_filter]
      apply List.filter_congr
      intro member _
      by_cases same : key member = own <;> simp [same, fresh]
    rw [first, others] at listed
    exact ((ih distinct).append_left _).trans listed

/-- Every triple is listed once. -/
theorem perm_bySubject (triples : List Triple) :
    ((bySubject triples).flatMap (·.2)).Perm triples := by
  have listed := perm_flatMap_filter Triple.subject (nodup_firsts (triples.map Triple.subject))
    triples
  have all : (triples.filter fun triple =>
      (firsts (triples.map Triple.subject)).contains triple.subject) = triples := by
    rw [List.filter_eq_self]
    intro triple member
    rw [List.contains_iff_mem, mem_firsts]
    exact List.mem_map_of_mem member
  rw [all] at listed
  rwa [bySubject, List.flatMap_map]

end Rdf

end AnswerGraph
