import AnswerGraph.Proofs.GraphStatistics
import Mathlib.Data.List.Induction

/-!
Three ways to leave out repetitions. Statements are told apart by their terms, rows by the texts of
these, and triples by subject, predicate and object. What is kept is in each case what does not
stand anywhere before its own place, and rows and triples can be taken from the statements that are
kept.
-/

namespace AnswerGraph

section

variable [BEq α] [LawfulBEq α]

/-- The members that do not stand anywhere before their own place. -/
def firstOccurrences (members : List α) : List α :=
  (members.zipIdx.filter fun (member, place) => member ∉ members.take place).map Prod.fst

theorem firstOccurrences_concat (members : List α) (last : α) :
    firstOccurrences (members ++ [last]) =
      firstOccurrences members ++ if last ∈ members then [] else [last] := by
  have front : (members.zipIdx.filter fun (member, place) =>
        member ∉ (members ++ [last]).take place) =
      members.zipIdx.filter fun (member, place) => member ∉ members.take place := by
    apply List.filter_congr
    rintro ⟨member, place⟩ listed
    have inside : place ≤ members.length := by
      have := List.mem_zipIdx listed
      omega
    dsimp only
    rw [List.take_append_of_le_length inside]
  rw [firstOccurrences, firstOccurrences, List.zipIdx_append, List.filter_append, front,
    List.map_append]
  congr 1
  by_cases known : last ∈ members <;> simp [known]

/-- What was seen is what stands before, so members that are kept can be told by their places. -/
theorem firsts_eq_firstOccurrences (members : List α) :
    firsts members = firstOccurrences members := by
  induction members using List.reverseRecOn with
  | nil => rfl
  | append_singleton members last ih =>
    rw [firstOccurrences_concat, ← ih]
    by_cases known : last ∈ members
    · rw [firsts_concat_of_mem known, if_pos known, List.append_nil]
    · rw [firsts_concat_of_not_mem known, if_neg known]

end

namespace Rdf

theorem exists_triples_iff (statements : List Statement) :
    (∃ found, triples statements = .ok found) ↔
      ∀ statement ∈ statements, statement.problem? = none := by
  have faultless : statements.findSome? problemOf? = none ↔
      ∀ statement ∈ statements, statement.problem? = none := by
    simp [problemOf?]
  rw [← faultless, triples, check_eq_findSome?]
  cases statements.findSome? problemOf? with
  | none => simp [Except.map]
  | some fault => simp [Except.map]

/-- The triples of accepted statements are the distinct statements by their three terms. -/
theorem map_triple?_firsts {statements : List Statement} {found : List Triple}
    (accepted : triples statements = .ok found) :
    (firsts statements).map Statement.triple? =
      found.map fun triple => some (triple.subject, triple.predicate, triple.object) := by
  rw [← (triples_eq_ok accepted).1, List.map_map]
  rfl

end Rdf

/-- Statements, rows and triples are deduplicated alike. When statements are appended, those that
were not there before are kept behind the others, so what is kept are exactly the first occurrences.
Rows are the same whether or not their statements were deduplicated before. Triples exist exactly if
no statement has a problem, and then they are the deduplicated statements. -/
theorem deduplications_agree (statements more : List Statement) :
    (firsts (statements ++ more) =
        firsts statements ++ (firsts more).filter (· ∉ statements) ∧
      firsts statements = firstOccurrences statements ∧
      firsts (firsts statements) = firsts statements ∧
      ∀ statement, statement ∈ firsts statements ↔ statement ∈ statements) ∧
    (plainRows statements = plainRows (firsts statements) ∧
      plainRows statements = firstOccurrences (statements.map Statement.row)) ∧
    ((∃ triples, Rdf.triples statements = .ok triples) ↔
      ∀ statement ∈ statements, statement.problem? = none) ∧
    ∀ triples, Rdf.triples statements = .ok triples →
      (firsts statements).map Statement.triple? =
        triples.map fun triple => some (triple.subject, triple.predicate, triple.object) := by
  refine ⟨⟨firsts_append statements more, firsts_eq_firstOccurrences statements,
    firsts_firsts statements, mem_firsts statements⟩, ⟨?_, ?_⟩,
    Rdf.exists_triples_iff statements, fun triples accepted => Rdf.map_triple?_firsts accepted⟩
  · exact (plainRows_firsts statements).symm
  · exact firsts_eq_firstOccurrences (statements.map Statement.row)

/-- Of five statements four are kept, two of which have the same row. -/
theorem deduplications_agree_wheels :
    ∃ triples, Rdf.triples Graph.wheels.statements = .ok triples ∧
      (firsts Graph.wheels.statements).map Statement.triple? =
        triples.map (fun triple => some (triple.subject, triple.predicate, triple.object)) ∧
      (firsts Graph.wheels.statements).length = 4 ∧
      (plainRows (firsts Graph.wheels.statements)).length = 3 := by
  obtain ⟨-, ⟨rows, -⟩, sound, view⟩ := deduplications_agree Graph.wheels.statements []
  obtain ⟨triples, accepted⟩ := sound.mpr (by decide +kernel)
  have few : (plainRows Graph.wheels.statements).length = 3 := by decide +kernel
  rw [rows] at few
  exact ⟨triples, accepted, view triples accepted, by decide +kernel, few⟩

end AnswerGraph
