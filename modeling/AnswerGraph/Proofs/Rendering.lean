import AnswerGraph.Proofs.AssemblyReference
import AnswerGraph.Proofs.LinkedFormats

/-!
What is shown of a graph. Linked data deduplicates triples once all statements were checked, plain
output deduplicates rows of texts, and a drawing deduplicates statements before it numbers their
terms. All three depend on the first occurrences of the statements only, and so do the counts of a
graph but for one; what a build collects again and again is never seen.
-/

namespace AnswerGraph

namespace Rdf

/-- A statement with its problem, if it has one. -/
def problemOf? (statement : Statement) : Option (Statement × RdfProblem) :=
  statement.problem?.map (statement, ·)

/-- The first statement with a problem decides, and without one the triples are those of the
statements. -/
theorem check_eq_findSome? (statements : List Statement) :
    check statements =
      match statements.findSome? problemOf? with
      | some fault => .error fault
      | none => .ok (threeTerms statements) := by
  induction statements with
  | nil => rfl
  | cons statement rest ih =>
    rw [check, List.findSome?_cons, problemOf?]
    cases found : statement.problem? with
    | some problem => rfl
    | none =>
      obtain ⟨triple, _, _, shape⟩ := exists_sound found
      rw [threeTerms, List.filterMap_cons, shape, ih]
      cases rest.findSome? problemOf? <;> rfl

/-- The distinct triples, and the first problem, are those of the distinct statements. -/
theorem triples_firsts (statements : List Statement) :
    triples (firsts statements) = triples statements := by
  have once : firsts (threeTerms (firsts statements)) = firsts (threeTerms statements) :=
    firsts_filterMap _ statements
  rw [triples, triples, check_eq_findSome?, check_eq_findSome?, findSome?_firsts]
  cases statements.findSome? problemOf? with
  | some fault => rfl
  | none => exact congrArg Except.ok once

end Rdf

theorem plainRows_firsts (statements : List Statement) :
    plainRows (firsts statements) = plainRows statements := by
  rw [plainRows, plainRows, ← List.filterMap_eq_map, firsts_filterMap]

namespace Assembly

theorem namespaces_run (base : String) (set : PatternSet) (steps : List BindingStep) :
    (run base set steps).graph.namespaces = set.namespaces := by
  have kept : ∀ assembly : Assembly,
      (steps.foldl bind assembly).graph.namespaces = assembly.graph.namespaces := by
    induction steps with
    | nil => exact fun _ => rfl
    | cons step rest ih => exact fun assembly => ih (assembly.bind step)
  exact kept (start base set)

/-- A run has the distinct statements of the reference. -/
theorem distinct_run (base : String) (set : PatternSet) (steps : List BindingStep) :
    (run base set steps).graph.distinct = firsts (referenceStatements base set steps) :=
  (start_follows base set).run steps

end Assembly

namespace Graph

/-- The graph that holds every statement once. -/
def once (graph : Graph) : Graph :=
  { graph with statements := graph.distinct }

theorem distinct_once (graph : Graph) : graph.once.distinct = graph.distinct :=
  firsts_firsts graph.statements

theorem render_once (graph : Graph) (settings : OutputSettings) :
    graph.once.render settings = graph.render settings := by
  rw [render, render]
  cases settings.mode with
  | linked => simp only [Rdf.write, once, distinct, Rdf.triples_firsts]
  | plain => simp only [writePlain, once, distinct, plainRows_firsts]
  | dot => simp only [drawing, distinct_once]

/-- Graphs of the same distinct statements are shown alike. -/
theorem render_congr {graph other : Graph} (namespaces : graph.namespaces = other.namespaces)
    (same : graph.distinct = other.distinct) (settings : OutputSettings) :
    graph.render settings = other.render settings := by
  have held : graph.once = other.once := by rw [once, once, namespaces, same]
  rw [← render_once graph, held, render_once]

theorem distinct_add_of_known {graph : Graph} {extra : List Statement}
    (known : ∀ statement ∈ extra, statement ∈ graph.statements) :
    (graph.add extra).distinct = graph.distinct := by
  simpa [distinct, add] using firsts_append_of_known known []

/-- All counts are about the distinct statements, but for the number of those collected. -/
theorem statistics_eq (graph : Graph) :
    graph.statistics = { graph.once.statistics with collected := graph.statements.length } := by
  rw [statistics, statistics, distinct_once]

theorem statistics_add_of_known {graph : Graph} {extra : List Statement}
    (known : ∀ statement ∈ extra, statement ∈ graph.statements) :
    (graph.add extra).statistics =
      { graph.statistics with collected := graph.statistics.collected + extra.length } := by
  have held : (graph.add extra).once = graph.once := by
    rw [once, distinct_add_of_known known]
    rfl
  rw [statistics_eq, held, statistics_eq graph, add, List.length_append]

/-- Whatever the settings, a graph is shown like the one that holds every statement once, in the
same text or with the same error. Statements that are collected again change neither what is shown
nor any count but that of the collected ones. So a build, which collects whole patterns after every
binding, is shown like the statements that are said in one pass. -/
theorem render_of_repetitions (settings : OutputSettings) :
    (∀ graph : Graph, Graph.render { graph with statements := graph.distinct } settings =
        graph.render settings) ∧
      (∀ (graph : Graph) (extra : List Statement),
        (∀ statement ∈ extra, statement ∈ graph.statements) →
        (graph.add extra).render settings = graph.render settings ∧
          (graph.add extra).statistics =
            { graph.statistics with collected := graph.statistics.collected + extra.length }) ∧
      ∀ (identifiers : Identifiers) (set : PatternSet) (templates : List QuestionTemplate)
        (source : AnswerSource),
        (Build.ofParts identifiers set templates source).graph.render settings =
          Graph.render
            { statements := referenceStatements identifiers.subjectBase set
                (referenceSteps set templates source.resolve)
              namespaces := set.namespaces } settings := by
  refine ⟨fun graph => render_once graph settings, fun graph extra known => ⟨?_, ?_⟩,
    fun identifiers set templates source => ?_⟩
  · have namespaces : (graph.add extra).namespaces = graph.namespaces := rfl
    exact render_congr namespaces (distinct_add_of_known known) settings
  · exact statistics_add_of_known known
  · refine render_congr ?_ ?_ settings
    · exact Assembly.namespaces_run identifiers.subjectBase set _
    · have steps := Matching.bindingSteps_of set templates source.resolve
      rw [Build.ofParts, steps]
      exact Assembly.distinct_run identifiers.subjectBase set _

/-- Statements that are no RDF are refused for the first of them however often they are collected,
and three distinct ones are counted among ten. -/
theorem render_of_repetitions_mixed :
    let graph : Graph := { statements := Rdf.mixedStatements }
    let extra := Rdf.mixedStatements.reverse
    (∀ statement ∈ extra, statement ∈ graph.statements) ∧
      (graph.add extra).render {} =
        .error (.notRdf "gear urn:label part" "literal in subject position") ∧
      (graph.add extra).statistics = ⟨10, 3, 2, 1, 2⟩ := by
  intro graph extra
  have known : ∀ statement ∈ extra, statement ∈ graph.statements :=
    fun statement member => List.mem_reverse.mp member
  obtain ⟨shown, counted⟩ := (render_of_repetitions {}).2.1 graph extra known
  have refused : graph.render {} =
      .error (.notRdf "gear urn:label part" "literal in subject position") := by decide +kernel
  have counts : graph.statistics = ⟨5, 3, 2, 1, 2⟩ := by decide +kernel
  exact ⟨known, shown.trans refused, by rw [counted, counts]; rfl⟩

end Graph

end AnswerGraph
