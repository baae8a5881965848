import AnswerGraph.Proofs.Faults
import AnswerGraph.Proofs.RdfCheck
import Mathlib.Data.List.Nodup

/-!
What the linked formats refuse. Whether statements are RDF is asked twice: for a list of all
problems, and while the triples are collected, which stops at the first problem. Both see the same
faults in the same order, so that all formats refuse the same statements in the same words; RDF/XML
also needs a name in every predicate.
-/

namespace AnswerGraph

namespace Rdf

/-- A statement with its position and its problem. -/
structure Fault where
  position : Nat
  statement : Statement
  problem : RdfProblem
  deriving DecidableEq, Repr

namespace Fault

/-- The line of the fault in a list of problems. -/
def line (fault : Fault) : String :=
  s!"Triple {fault.position}: {fault.problem.message}: {fault.statement.display}"

/-- The error that a writer stops with. -/
def error (fault : Fault) : GraphError :=
  .notRdf fault.statement.display fault.problem.message

end Fault

/-- The faults of statements that are counted from a position. -/
def faultsFrom : Nat → List Statement → List Fault
  | _, [] => []
  | position, statement :: rest =>
    (statement.problem?.map (Fault.mk position statement)).toList ++ faultsFrom (position + 1) rest

def faults (statements : List Statement) : List Fault := faultsFrom 0 statements

theorem faultsFrom_of_problem {statement : Statement} {problem : RdfProblem}
    (found : statement.problem? = some problem) (position : Nat) (rest : List Statement) :
    faultsFrom position (statement :: rest) =
      ⟨position, statement, problem⟩ :: faultsFrom (position + 1) rest := by
  simp [faultsFrom, found]

theorem faultsFrom_of_sound {statement : Statement} (sound : statement.problem? = none)
    (position : Nat) (rest : List Statement) :
    faultsFrom position (statement :: rest) = faultsFrom (position + 1) rest := by
  simp [faultsFrom, sound]

/-- The list of problems has one line for every fault. -/
theorem problems_eq (statements : List Statement) :
    problems statements = (faults statements).map Fault.line := by
  have general : ∀ position, ((statements.zipIdx position).filterMap fun placed =>
      placed.1.problem?.map fun problem =>
        s!"Triple {placed.2}: {problem.message}: {placed.1.display}") =
      (faultsFrom position statements).map Fault.line := by
    induction statements with
    | nil => exact fun _ => rfl
    | cons statement rest ih =>
      intro position
      rw [List.zipIdx_cons, List.filterMap_cons, ih (position + 1)]
      cases found : statement.problem? with
      | some problem =>
        rw [faultsFrom_of_problem found]
        simp [Fault.line]
      | none =>
        rw [faultsFrom_of_sound found]
        simp
  exact general 0

/-- The triples of the statements that have exactly three terms. -/
def threeTerms (statements : List Statement) : List Triple :=
  statements.filterMap fun statement =>
    statement.triple?.map fun (subject, predicate, object) => ⟨subject, predicate, object⟩

theorem ofTerms_eq_some_iff {statement : Statement} {triple : Triple} :
    (statement.triple?.map fun (subject, predicate, object) =>
      (⟨subject, predicate, object⟩ : Triple)) = some triple ↔ triple.statement = statement := by
  obtain ⟨subject, predicate, object⟩ := triple
  obtain ⟨terms⟩ := statement
  match terms with
  | [first, second, third] => simp [Statement.triple?, Triple.statement, eq_comm]
  | [] | [_] | [_, _] | _ :: _ :: _ :: _ :: _ => simp [Statement.triple?, Triple.statement]

theorem mem_threeTerms {statements : List Statement} {triple : Triple} :
    triple ∈ threeTerms statements ↔ triple.statement ∈ statements := by
  rw [threeTerms, List.mem_filterMap]
  constructor
  · rintro ⟨statement, member, shape⟩
    exact ofTerms_eq_some_iff.mp shape ▸ member
  · exact fun member => ⟨triple.statement, member, ofTerms_eq_some_iff.mpr rfl⟩

/-- Distinct statements have distinct triples. -/
theorem nodup_threeTerms {statements : List Statement} (distinct : statements.Nodup) :
    (threeTerms statements).Nodup := by
  apply List.Nodup.filterMap _ distinct
  intro first second triple one other
  rw [← ofTerms_eq_some_iff.mp one, ← ofTerms_eq_some_iff.mp other]

/-- Collecting triples stops at the first fault. -/
theorem check_eq (statements : List Statement) (position : Nat) :
    check statements = unlessFaulty (threeTerms statements)
      ((faultsFrom position statements).map fun fault => (fault.statement, fault.problem)) := by
  induction statements generalizing position with
  | nil => rfl
  | cons statement rest ih =>
    rw [check]
    cases found : statement.problem? with
    | some problem =>
      rw [faultsFrom_of_problem found]
      rfl
    | none =>
      obtain ⟨triple, _, _, shape⟩ := exists_sound found
      rw [faultsFrom_of_sound found, threeTerms, List.filterMap_cons, shape, ih (position + 1)]
      exact unlessFaulty_map _ _ (triple :: ·)

theorem triples_eq (statements : List Statement) :
    triples statements = unlessFaulty (firsts (threeTerms statements))
      ((faults statements).map fun fault => (fault.statement, fault.problem)) := by
  rw [triples, check_eq statements 0, faults]
  cases faultsFrom 0 statements <;> rfl

/-- The first fault is that of the first statement with a problem. -/
theorem exists_of_faultsFrom {position : Nat} {statements : List Statement} {fault : Fault}
    {more : List Fault} (found : faultsFrom position statements = fault :: more) :
    ∃ front rest, statements = front ++ fault.statement :: rest ∧
      fault.position = position + front.length ∧
      (∀ earlier ∈ front, earlier.problem? = none) ∧
      fault.statement.problem? = some fault.problem := by
  induction statements generalizing position with
  | nil => cases found
  | cons statement rest ih =>
    cases problem : statement.problem? with
    | some problem =>
      rw [faultsFrom_of_problem problem] at found
      obtain ⟨rfl, -⟩ := List.cons.inj found
      exact ⟨[], rest, rfl, rfl, by simp, problem⟩
    | none =>
      rw [faultsFrom_of_sound problem] at found
      obtain ⟨front, behind, rfl, placed, sound, own⟩ := ih found
      refine ⟨statement :: front, behind, rfl, ?_, ?_, own⟩
      · rw [placed, List.length_cons]
        omega
      · intro earlier member
        rcases List.mem_cons.mp member with rfl | member
        · exact problem
        · exact sound earlier member

end Rdf

/-! ## Names of predicates -/

namespace RdfXml

/-- Whether a triple's predicate ends in a name. -/
def named (triple : Triple) : Bool := (splitName? triple.predicate.text.toList).isSome

theorem isSome_element? (triple : Triple) : (element? triple).isSome = named triple := by
  rw [element?, named]
  cases splitName? triple.predicate.text.toList <;> rfl

theorem elements_isOk (triples : List Triple) :
    (elements triples).isOk = triples.all named := by
  induction triples with
  | nil => rfl
  | cons triple rest ih =>
    rw [elements, List.all_cons, ← isSome_element?, ← ih]
    cases element? triple with
    | none => rfl
    | some text => cases elements rest <;> rfl

theorem descriptions_isOk (groups : List (Term × List Triple)) :
    (descriptions groups).isOk = groups.all fun group => group.2.all named := by
  induction groups with
  | nil => rfl
  | cons group rest ih =>
    obtain ⟨subject, own⟩ := group
    rw [descriptions, List.all_cons, ← ih, ← elements_isOk, description]
    cases elements own with
    | error triple => rfl
    | ok text => cases descriptions rest <;> rfl

/-- Triples can be written exactly if all their predicates have names: the descriptions of all
subjects together hold every triple. -/
theorem write_isOk (triples : List Triple) : (write triples).isOk = triples.all named := by
  have body : (write triples).isOk = (descriptions (Rdf.bySubject triples)).isOk := by
    rw [write]
    cases descriptions (Rdf.bySubject triples) <;> rfl
  rw [body, descriptions_isOk, Bool.eq_iff_iff]
  simp only [List.all_eq_true]
  exact Rdf.forall_bySubject_iff

end RdfXml

/-! ## The formats -/

namespace Rdf

variable (namespaces : Namespaces) (pretty : Bool) {statements : List Statement}

/-- Every format stops at the first fault. -/
theorem write_of_fault {fault : Fault} {more : List Fault}
    (found : faults statements = fault :: more) (format : LinkedFormat) :
    write namespaces format pretty statements = .error fault.error := by
  rw [write, triples_eq, found]
  rfl

/-- Without faults three of the formats have a text, and RDF/XML has one if all predicates have
names. -/
theorem write_isOk_of_faultless (faultless : faults statements = []) (format : LinkedFormat) :
    (write namespaces format pretty statements).isOk =
      (format != .rdfXml || (threeTerms statements).all RdfXml.named) := by
  rw [write, triples_eq, faultless]
  cases format with
  | jsonLd => rfl
  | turtle => rfl
  | nTriples => rfl
  | rdfXml =>
    have all : (firsts (threeTerms statements)).all RdfXml.named =
        (threeTerms statements).all RdfXml.named := by
      rw [Bool.eq_iff_iff]
      simp only [List.all_eq_true, mem_firsts]
    simp only [List.map_nil, unlessFaulty, bne_self_eq_false, Bool.false_or, ← all,
      ← RdfXml.write_isOk]
    cases RdfXml.write (firsts (threeTerms statements)) <;> rfl

theorem problems_eq_nil_iff : problems statements = [] ↔ faults statements = [] := by
  rw [problems_eq, List.map_eq_nil_iff]

theorem sound_of_faultsFrom {position : Nat} (faultless : faultsFrom position statements = []) :
    ∀ statement ∈ statements, statement.problem? = none := by
  induction statements generalizing position with
  | nil => simp
  | cons statement rest ih =>
    cases found : statement.problem? with
    | some problem =>
      rw [faultsFrom_of_problem found] at faultless
      cases faultless
    | none =>
      rw [faultsFrom_of_sound found] at faultless
      intro other member
      rcases List.mem_cons.mp member with rfl | member
      · exact found
      · exact ih faultless other member

/-- The names of predicates, said of statements that are all triples. -/
theorem all_named_iff (sound : ∀ statement ∈ statements, statement.problem? = none) :
    (threeTerms statements).all RdfXml.named = true ↔
      ∀ statement ∈ statements, ∀ predicate ∈ statement.predicate?,
        (RdfXml.splitName? predicate.text.toList).isSome = true := by
  simp only [List.all_eq_true, threeTerms, List.mem_filterMap]
  constructor
  · intro named statement member predicate asked
    obtain ⟨triple, _, rfl, shape⟩ := exists_sound (sound statement member)
    obtain rfl : triple.predicate = predicate := Option.some.inj asked
    exact named triple ⟨triple.statement, member, by rw [shape]; rfl⟩
  · rintro named triple ⟨statement, member, shape⟩
    obtain ⟨own, _, rfl, parts⟩ := exists_sound (sound statement member)
    rw [parts] at shape
    obtain rfl : own = triple := Option.some.inj shape
    exact named own.statement member own.predicate rfl

/-- The list of problems is empty exactly if JSON-LD, Turtle and N-Triples have a text. Otherwise
every format is refused with the statement and the reason of the first problem in the list, which is
that of the first statement with a problem. RDF/XML has a text exactly if there are no problems and
every predicate ends in a name. -/
theorem linked_formats_agree (statements : List Statement) :
    (∀ format, format ≠ .rdfXml →
        (problems statements = [] ↔ ∃ text, write namespaces format pretty statements = .ok text)) ∧
      (∀ first more, problems statements = first :: more →
        ∃ front statement rest problem, statements = front ++ statement :: rest ∧
          (∀ earlier ∈ front, earlier.problem? = none) ∧ statement.problem? = some problem ∧
          first = s!"Triple {front.length}: {problem.message}: {statement.display}" ∧
          ∀ format, write namespaces format pretty statements =
            .error (.notRdf statement.display problem.message)) ∧
      ((∃ text, write namespaces .rdfXml pretty statements = .ok text) ↔
        problems statements = [] ∧ ∀ statement ∈ statements, ∀ predicate ∈ statement.predicate?,
          (RdfXml.splitName? predicate.text.toList).isSome = true) := by
  simp only [exists_ok_iff, problems_eq_nil_iff]
  refine ⟨fun format linked => ?_, fun first more listed => ?_, ?_⟩
  · cases found : faults statements with
    | nil => simp [write_isOk_of_faultless namespaces pretty found, linked]
    | cons fault others => simp [write_of_fault namespaces pretty found, Except.isOk, Except.toBool]
  · rw [problems_eq] at listed
    obtain ⟨fault, others, found, rfl, -⟩ := List.map_eq_cons_iff.mp listed
    obtain ⟨front, rest, cut, placed, sound, own⟩ := exists_of_faultsFrom found
    refine ⟨front, fault.statement, rest, fault.problem, cut, sound, own, ?_, ?_⟩
    · rw [Fault.line, placed, Nat.zero_add]
    · exact write_of_fault namespaces pretty found
  · cases found : faults statements with
    | nil =>
      rw [write_isOk_of_faultless namespaces pretty found]
      simpa using all_named_iff (sound_of_faultsFrom found)
    | cons fault others => simp [write_of_fault namespaces pretty found, Except.isOk, Except.toBool]

/-- Sound statements, one that is refused and repeated, and one that is refused for something
else. -/
def mixedStatements : List Statement :=
  let sound : Statement := ⟨[.iri "urn:part", .iri "urn:label", .literal "gear"]⟩
  let refused : Statement := ⟨[.literal "gear", .iri "urn:label", .iri "part"]⟩
  [sound, refused, sound, ⟨[.iri "urn:part"]⟩, refused]

theorem linked_formats_agree_mixed :
    problems mixedStatements = ["Triple 1: literal in subject position: gear urn:label part",
      "Triple 3: statement does not have exactly three terms: urn:part",
      "Triple 4: literal in subject position: gear urn:label part"] ∧
      ∃ statement ∈ mixedStatements, ∃ problem, statement.problem? = some problem ∧
        ∀ format, write {} format true mixedStatements =
          .error (.notRdf statement.display problem.message) := by
  have listed : problems mixedStatements =
      ["Triple 1: literal in subject position: gear urn:label part",
        "Triple 3: statement does not have exactly three terms: urn:part",
        "Triple 4: literal in subject position: gear urn:label part"] := by decide +kernel
  obtain ⟨-, refused, -⟩ := linked_formats_agree {} true mixedStatements
  obtain ⟨front, statement, rest, problem, cut, -, own, -, stopped⟩ := refused _ _ listed
  exact ⟨listed, statement, by simp [cut], problem, own, stopped⟩

end Rdf

end AnswerGraph
