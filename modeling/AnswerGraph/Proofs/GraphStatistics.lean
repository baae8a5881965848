import AnswerGraph.Proofs.JsonLdGrouping
import AnswerGraph.Proofs.RdfXmlTags
import AnswerGraph.Proofs.Rendering
import AnswerGraph.Proofs.TripleText
import Mathlib.Data.List.Nodup

/-!
The counts of a graph and the texts that are written of it. N-Triples has a line for every distinct
statement, JSON-LD a node and RDF/XML a description for every subject. Plain output has fewer rows
than there are distinct statements if some of them have the same texts.
-/

namespace AnswerGraph

/-! ## Lines of triples -/

theorem NTriples.lines_write {triples : List Triple} (sound : ∀ triple ∈ triples, triple.Sound) :
    Text.lines (write triples) = triples.map line := by
  have joined : write triples = (triples.map line).flatMap (· ++ ['\n']) := by
    rw [write, List.flatMap_map]
    congr 1
    funext triple
    have whole := writeTriple_append triple []
    rwa [List.append_nil] at whole
  rw [joined]
  apply Text.lines_flatMap
  intro text member
  obtain ⟨triple, inside, rfl⟩ := List.mem_map.mp member
  have unbroken := noLineEnd_line (sound triple inside)
  constructor
  · intro feed
    exact absurd (unbroken '\n' feed) (by decide)
  · intro last
    exact absurd (unbroken '\r' (List.mem_of_getLast? last)) (by decide)

/-! ## Rows -/

/-- There are as many rows as distinct statements if no two statements have the same texts, and
fewer otherwise. -/
theorem length_plainRows (statements : List Statement) :
    (plainRows statements).length ≤ (firsts statements).length ∧
      ((plainRows statements).length = (firsts statements).length ↔
        ∀ first ∈ statements, ∀ second ∈ statements,
          first ≠ second → first.row ≠ second.row) := by
  have rows : plainRows statements = firsts ((firsts statements).map Statement.row) :=
    (plainRows_firsts statements).symm
  have same : ((firsts statements).map Statement.row).length = (firsts statements).length :=
    List.length_map _
  rw [rows, ← same, length_firsts_eq_iff, List.nodup_map_iff_inj_on (nodup_firsts statements)]
  refine ⟨length_firsts_le _, ?_⟩
  simp only [mem_firsts]
  constructor
  · exact fun apart first member second other different alike =>
      different (apart first member second other alike)
  · exact fun apart first member second other alike =>
      by_contra fun different => apart first member second other different alike

theorem parse?_writePlain (pretty : Bool) (statements : List Statement) :
    Json.parse? (writePlain pretty statements) =
      some (.array ((plainRows statements).map Json.strings)) := by
  apply Json.parse?_render
  refine .array fun row listed => ?_
  obtain ⟨texts, -, rfl⟩ := List.mem_map.mp listed
  refine .array fun item inside => ?_
  obtain ⟨text, -, rfl⟩ := List.mem_map.mp inside
  exact .string

/-! ## Linked data -/

namespace Graph

variable {graph : Graph} {found : List Triple}

theorem length_triples (accepted : Rdf.triples graph.statements = .ok found) :
    found.length = graph.statistics.distinct := by
  have same := congrArg List.length (Rdf.triples_eq_ok accepted).1
  rwa [List.length_map] at same

theorem subjects_eq (graph : Graph) :
    graph.statistics.subjects = (firsts (graph.statements.filterMap Statement.subject?)).length :=
  congrArg List.length (firsts_filterMap _ _)

theorem length_bySubject (accepted : Rdf.triples graph.statements = .ok found) :
    (Rdf.bySubject found).length = graph.statistics.subjects := by
  rw [subjects_eq, ← Rdf.subjects_of_accepted accepted, Rdf.bySubject, List.length_map]

/-- The counts of a graph are those of what is written of it as linked data. -/
structure CountsWritten (graph : Graph) (pretty : Bool) : Prop where
  /-- There is a line for each distinct statement. -/
  nTriples : ∃ text triples, graph.render ⟨.linked, .nTriples, pretty⟩ = .ok text ∧
    NTriples.read? text.toList = some triples ∧
    triples.length = graph.statistics.distinct ∧
    (Text.lines text.toList).length = graph.statistics.distinct
  /-- There is a node for each subject. -/
  jsonLd : ∃ text value nodes, graph.render ⟨.linked, .jsonLd, pretty⟩ = .ok text ∧
    Json.parse? text = some value ∧ value.member? "@graph" = some (.array nodes) ∧
    nodes.length = graph.statistics.subjects
  /-- There is a tag of a description for each subject; a predicate of that name is written without
  the prefix. If the text is XML, the elements in its root are the descriptions. -/
  rdfXml : ∀ text, graph.render ⟨.linked, .rdfXml, pretty⟩ = .ok text →
    Text.occurrences "<rdf:Description ".toList text.toList = graph.statistics.subjects ∧
    ∀ root, Xml.read? text.toList = some root → ∃ children,
      root = .element (RdfXml.ownName "RDF") [] children ∧
      (RdfXml.solid children).length = graph.statistics.subjects ∧
      ∀ child ∈ RdfXml.solid children, ∃ given inner,
        child = .element (RdfXml.ownName "Description") given inner

theorem countsWritten (accepted : Rdf.triples graph.statements = .ok found) (pretty : Bool) :
    graph.CountsWritten pretty := by
  have sound := (Rdf.triples_eq_ok accepted).2
  constructor
  · have written : graph.render ⟨.linked, .nTriples, pretty⟩ =
        .ok (String.ofList (NTriples.write found)) := by
      rw [render, Rdf.write, accepted]
    refine ⟨_, found, written, ?_, length_triples accepted, ?_⟩
    · rw [String.toList_ofList, NTriples.read?_write sound]
    · rw [String.toList_ofList, NTriples.lines_write sound, List.length_map,
        length_triples accepted]
  · let prefixes := Prefixes.ofNamespaces graph.namespaces
    refine ⟨_, JsonLd.document prefixes found, _, JsonLd.write_eq accepted pretty,
      Json.parse?_render (JsonLd.canonical_document sound prefixes) pretty,
      JsonLd.member?_graph prefixes found, ?_⟩
    rw [List.length_map, Rdf.subjects_of_accepted accepted, subjects_eq]
  · intro text written
    obtain ⟨others, again, split, same⟩ :=
      @RdfXml.exists_of_written graph.namespaces pretty _ _ written
    obtain rfl : found = others := Except.ok.inj (accepted.symm.trans again)
    refine ⟨?_, fun root read => ?_⟩
    · rw [same, ← length_bySubject accepted, ← RdfXml.occurrences_documentText split]
      rfl
    · rw [same] at read
      obtain ⟨children, shape, number, named⟩ :=
        RdfXml.children_of_read (RdfXml.sound_description sound split) read
      rw [List.length_map, length_bySubject accepted] at number
      exact ⟨children, shape, number, named⟩

/-- The counts of a graph agree with what is written of it. If it can be written as linked data in
some format, N-Triples has as many lines as there are distinct statements, and JSON-LD as many nodes
as there are subjects, which are the descriptions in RDF/XML if that can be written too. Any graph
has at least as many distinct statements as rows, and as many only if no two statements have the
same texts. What is counted of terms may be counted before or after repeated statements are left
out. -/
theorem statistics_of_rendered (graph : Graph) :
    (∀ settings text, settings.mode = .linked → graph.render settings = .ok text →
        ∀ pretty, graph.CountsWritten pretty) ∧
      (∀ settings, settings.mode = .plain → ∃ (text : String) (rows : List (List String)),
        graph.render settings = .ok text ∧
        Json.parse? text = some (.array (rows.map Json.strings)) ∧
        rows.length ≤ graph.statistics.distinct ∧
        (rows.length = graph.statistics.distinct ↔
          ∀ first ∈ graph.statements, ∀ second ∈ graph.statements,
            first ≠ second → first.row ≠ second.row)) ∧
      graph.statistics.subjects =
        (firsts (graph.statements.filterMap Statement.subject?)).length ∧
      graph.statistics.predicates =
        (firsts (graph.statements.filterMap Statement.predicate?)).length ∧
      graph.statistics.objects =
        (firsts (graph.statements.filterMap Statement.object?)).length := by
  refine ⟨fun settings text linked rendered pretty => ?_, fun settings plain => ?_,
    subjects_eq graph, congrArg List.length (firsts_filterMap _ _),
    congrArg List.length (firsts_filterMap _ _)⟩
  · rw [render, linked] at rendered
    obtain ⟨found, accepted⟩ := Rdf.triples_of_write rendered
    exact countsWritten accepted pretty
  · have rendered : graph.render settings = .ok (writePlain settings.pretty graph.statements) := by
      rw [render, plain]
    exact ⟨_, plainRows graph.statements, rendered, parse?_writePlain _ _,
      length_plainRows graph.statements⟩

/-- A graph with a literal of two lines, an IRI with the text of a literal, and a repetition. -/
def wheels : Graph where
  statements :=
    let wheel : Term := .iri "http://example.org/wheel"
    let axle : Term := .iri "http://example.org/axle"
    let near : Term := .iri "http://example.org/near"
    [⟨[wheel, near, .literal "two\nlines"]⟩, ⟨[wheel, near, axle]⟩,
      ⟨[wheel, near, .literal "http://example.org/axle"]⟩,
      ⟨[axle, near, .literal "two\nlines"]⟩, ⟨[wheel, near, axle]⟩]

/-- It has four lines and two descriptions, but only three rows. -/
theorem statistics_of_rendered_wheels :
    wheels.statistics = ⟨5, 4, 2, 1, 3⟩ ∧
      (∃ text, wheels.render ⟨.linked, .nTriples, true⟩ = .ok text ∧
        (Text.lines text.toList).length = 4) ∧
      (∃ text, wheels.render ⟨.linked, .rdfXml, true⟩ = .ok text ∧
        Text.occurrences "<rdf:Description ".toList text.toList = 2) ∧
      ∃ (text : String) (rows : List (List String)),
        wheels.render ⟨.plain, .jsonLd, true⟩ = .ok text ∧
        Json.parse? text = some (.array (rows.map Json.strings)) ∧ rows.length < 4 := by
  have counts : wheels.statistics = ⟨5, 4, 2, 1, 3⟩ := by decide +kernel
  have accepted : (wheels.render ⟨.linked, .rdfXml, true⟩).isOk = true := by decide +kernel
  obtain ⟨xml, rendered⟩ := exists_ok_iff.mpr accepted
  obtain ⟨linked, plain, -⟩ := statistics_of_rendered wheels
  have written := linked _ xml rfl rendered true
  obtain ⟨lines, -, shown, -, -, number⟩ := written.nTriples
  obtain ⟨text, rows, row, parsed, most, whole⟩ := plain ⟨.plain, .jsonLd, true⟩ rfl
  have alike : ¬ ∀ first ∈ wheels.statements, ∀ second ∈ wheels.statements,
      first ≠ second → first.row ≠ second.row := by
    decide +kernel
  rw [counts] at number most whole
  refine ⟨counts, ⟨lines, shown, number⟩, ⟨xml, rendered, ?_⟩, text, rows, row, parsed, ?_⟩
  · rw [(written.rdfXml xml rendered).1, counts]
  · exact lt_of_le_of_ne most fun same => alike (whole.mp same)

end Graph

end AnswerGraph
