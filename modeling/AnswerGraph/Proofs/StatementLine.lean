import AnswerGraph.Proofs.LinkedFormats
import AnswerGraph.Proofs.TextSearch
import AnswerGraph.Proofs.TripleText

/-!
Two ways to write one triple as N-Triples. A statement has a line of its own, on which only quotes
are escaped; the writer for lists escapes backslashes and line ends as well. The line is what the
writer makes of the statement exactly if its literal has none of these.
-/

namespace AnswerGraph

namespace Statement

/-- A character of a literal on the line of a statement. -/
def lineChar (c : Char) : List Char :=
  if c = '"' then ['\\', '"'] else [c]

/-- A character that is escaped in a list of triples only. -/
def isLeftPlain (c : Char) : Bool := c == '\\' || c == '\n' || c == '\r'

theorem length_escapeLiteralChar (c : Char) :
    (Rdf.escapeLiteralChar c).length = (lineChar c).length + (isLeftPlain c).toNat := by
  by_cases feed : c = '\n'
  · subst feed
    rfl
  by_cases ret : c = '\r'
  · subst ret
    rfl
  by_cases mark : c = '"'
  · subst mark
    rfl
  by_cases backslash : c = '\\'
  · subst backslash
    rfl
  simp [Rdf.escapeLiteralChar, lineChar, isLeftPlain, feed, ret, mark, backslash]

/-- The writer for lists adds a character for each that is left plain on the line. -/
theorem length_escaped (text : List Char) :
    (text.flatMap Rdf.escapeLiteralChar).length =
      (text.flatMap lineChar).length + text.countP isLeftPlain := by
  induction text with
  | nil => rfl
  | cons c rest ih =>
    rw [List.flatMap_cons, List.flatMap_cons, List.length_append, List.length_append, ih,
      length_escapeLiteralChar, List.countP_cons]
    cases isLeftPlain c
    · simp only [Bool.toNat_false, Bool.false_eq_true, if_false]
      omega
    · simp only [Bool.toNat_true, if_true]
      omega

theorem escapeLiteralChar_eq {c : Char} (escaped : isLeftPlain c = false) :
    Rdf.escapeLiteralChar c = lineChar c := by
  simp only [isLeftPlain, Bool.or_eq_false_iff, beq_eq_false_iff_ne] at escaped
  simp [Rdf.escapeLiteralChar, lineChar, escaped.1.1, escaped.1.2, escaped.2]

theorem flatMap_lineChar_eq_iff (text : List Char) :
    text.flatMap lineChar = text.flatMap Rdf.escapeLiteralChar ↔
      ∀ c ∈ text, isLeftPlain c = false := by
  constructor
  · intro same
    have lengths := length_escaped text
    rw [← same] at lengths
    have none : text.countP isLeftPlain = 0 := by omega
    intro c member
    exact Bool.eq_false_iff.mpr (List.countP_eq_zero.mp none c member)
  · intro escaped
    rw [List.flatMap_def, List.flatMap_def,
      List.map_congr_left fun c member => escapeLiteralChar_eq (escaped c member)]

/-- Both write a term alike unless it is a literal with a character that is left plain. -/
theorem lineTerm_eq_iff (term : Term) :
    lineTerm term = Rdf.writeTerm term ↔
      ∀ text, term = .literal text → ∀ c ∈ text.toList, c ≠ '\\' ∧ c ≠ '\n' ∧ c ≠ '\r' := by
  cases term with
  | iri value => simp [lineTerm, Rdf.writeTerm]
  | literal value =>
    have quoted : lineTerm (.literal value) = Rdf.writeTerm (.literal value) ↔
        value.toList.flatMap lineChar = value.toList.flatMap Rdf.escapeLiteralChar := by
      simp only [lineTerm, Rdf.writeTerm, Rdf.quoteLiteral, List.cons_append, List.cons.injEq,
        true_and, List.append_cancel_right_eq]
      rfl
    simp [quoted, flatMap_lineChar_eq_iff, isLeftPlain, and_assoc]

/-- The line of a sound triple differs from what is written of it at most in the object. -/
theorem toList_line {triple : Triple} (sound : triple.Sound) :
    (triple.statement.line ++ "\n").toList =
      Rdf.writeTerm triple.subject ++ ' ' :: Rdf.writeTerm triple.predicate ++
        ' ' :: lineTerm triple.object ++ [' ', '.', '\n'] := by
  obtain ⟨subject, predicate, object⟩ := triple
  obtain ⟨name, verb, rfl, rfl⟩ := sound.exists_iris
  simp [Triple.statement, line, lineTerm, Rdf.writeTerm, List.intercalate, List.intersperse]

/-- An accepted statement can be written as N-Triples, and its line is what is written, without the
line feed, exactly if its object is no literal with a backslash or a line end. -/
theorem line_eq_written_iff (namespaces : Namespaces) (pretty : Bool) {statement : Statement}
    (accepted : Rdf.problems [statement] = []) :
    ∃ text, Rdf.write namespaces .nTriples pretty [statement] = .ok text ∧
      (statement.line ++ "\n" = text ↔
        ∀ literal, statement.object? = some (.literal literal) →
          ∀ c ∈ literal.toList, c ≠ '\\' ∧ c ≠ '\n' ∧ c ≠ '\r') := by
  have faultless := Rdf.problems_eq_nil_iff.mp accepted
  have clean := Rdf.sound_of_faultsFrom faultless statement List.mem_cons_self
  obtain ⟨triple, sound, rfl, shape⟩ := Rdf.exists_sound clean
  have written : Rdf.write namespaces .nTriples pretty [triple.statement] =
      .ok (String.ofList (NTriples.writeTriple triple)) := by
    have whole : Rdf.threeTerms [triple.statement] = [triple] := by
      simp [Rdf.threeTerms, shape]
    rw [Rdf.write, Rdf.triples_eq, faultless, whole]
    simp [unlessFaulty, firsts, firstsFrom, NTriples.write]
  refine ⟨_, written, ?_⟩
  have object : triple.statement.object? = some triple.object := rfl
  rw [← String.toList_inj, String.toList_ofList, toList_line sound, NTriples.writeTriple, object]
  simp only [List.append_cancel_right_eq, List.append_cancel_left_eq, List.cons.injEq, true_and,
    List.append_assoc, List.cons_append]
  simp only [Option.some.injEq, lineTerm_eq_iff]

/-- A literal with quotes, a tab and a sign of its own. -/
def greeting : Statement :=
  ⟨[.iri "urn:gear", .iri "urn:says", .literal "\"hello\"\t\u2713"]⟩

theorem line_eq_written_iff_greeting :
    Rdf.problems [greeting] = [] ∧
      Rdf.write {} .nTriples true [greeting] = .ok (greeting.line ++ "\n") := by
  have accepted : Rdf.problems [greeting] = [] := by rfl
  obtain ⟨text, written, same⟩ := line_eq_written_iff {} true accepted
  refine ⟨accepted, ?_⟩
  rw [written, same.mpr]
  intro literal object
  cases object
  exact Text.forall_of_all rfl

/-- A literal of two lines. -/
def brokenLiteral : Statement :=
  ⟨[.iri "urn:gear", .iri "urn:says", .literal "two\nlines"]⟩

/-- Its statement is accepted and written on one line, but has two lines of its own, which cannot be
read. -/
theorem line_broken_by_literal :
    Rdf.problems [brokenLiteral] = [] ∧
      Rdf.write {} .nTriples true [brokenLiteral] =
        .ok "<urn:gear> <urn:says> \"two\\nlines\" .\n" ∧
      brokenLiteral.line ++ "\n" = "<urn:gear> <urn:says> \"two\nlines\" .\n" ∧
      brokenLiteral.line ++ "\n" ≠ "<urn:gear> <urn:says> \"two\\nlines\" .\n" ∧
      NTriples.read? (brokenLiteral.line ++ "\n").toList = none := by
  refine ⟨rfl, rfl, rfl, by decide, ?_⟩
  decide +kernel

end Statement

end AnswerGraph
