import AnswerGraph.Proofs.DrawingNodes

/-!
What labels do to a drawing. A label gives its subject what its object is called when the label is
met, which is the text of the object only if that has no label of its own before. Every triple whose
predicate speaks of a label is taken for one, so only the others are drawn as edges.
-/

namespace AnswerGraph

namespace Triple

/-- Whether a triple is a label of a text. -/
def LabelOf (triple : Triple) (text : String) : Prop :=
  triple.Labels ∧ triple.subject.text = text

instance (triple : Triple) (text : String) : Decidable (triple.LabelOf text) :=
  inferInstanceAs (Decidable (_ ∧ _))

end Triple

namespace Drawing

/-- What a text is called after triples: itself without a label, and otherwise what the object of
its last label was called before that label. -/
inductive Called : List Triple → String → String → Prop where
  | itself {triples : List Triple} {text : String}
      (unlabelled : ∀ triple ∈ triples, ¬ triple.LabelOf text) : Called triples text text
  | label {before after : List Triple} {triple : Triple} {text name : String}
      (label : triple.LabelOf text) (last : ∀ later ∈ after, ¬ later.LabelOf text)
      (object : Called before triple.object.text name) :
      Called (before ++ triple :: after) text name

variable {before after triples : List Triple} {triple : Triple} {text name : String}

/-! ## Names -/

theorem naming_append_of_unlabelled (unlabelled : ∀ later ∈ after, ¬ later.LabelOf text) :
    naming (before ++ after) text = naming before text := by
  induction after using List.reverseRecOn with
  | nil => rw [List.append_nil]
  | append_singleton front last ih =>
    have others := ih fun later member => unlabelled later (List.mem_append_left _ member)
    have apart : ¬ (last.Labels ∧ text = last.subject.text) := fun label =>
      unlabelled last (by simp) ⟨label.1, label.2.symm⟩
    rw [← List.append_assoc, naming_concat, rename, if_neg apart, others]

/-- The last label of a text decides what it is called. -/
theorem naming_of_label (label : triple.LabelOf text)
    (last : ∀ later ∈ after, ¬ later.LabelOf text) :
    naming (before ++ triple :: after) text = naming before triple.object.text := by
  rw [List.append_cons, naming_append_of_unlabelled last, naming_concat, rename,
    if_pos ⟨label.1, label.2.symm⟩]

theorem Called.naming_eq (called : Called triples text name) : naming triples text = name := by
  induction called with
  | itself unlabelled => exact @naming_append_of_unlabelled [] _ _ unlabelled
  | label label last _ ih => rw [naming_of_label label last, ih]

theorem Called.concat (called : Called triples text name) (unlabelled : ¬ triple.LabelOf text) :
    Called (triples ++ [triple]) text name := by
  have behind : ∀ {later : List Triple}, (∀ other ∈ later, ¬ other.LabelOf text) →
      ∀ other ∈ later ++ [triple], ¬ other.LabelOf text := by
    intro later all other member
    rcases List.mem_append.mp member with inside | last
    · exact all other inside
    · exact List.mem_singleton.mp last ▸ unlabelled
  cases called with
  | itself all => exact .itself (behind all)
  | label label last object =>
    rw [List.append_assoc]
    exact .label label (behind last) object

/-- The names of a drawing are what the texts are called. -/
theorem called_naming (triples : List Triple) (text : String) :
    Called triples text (naming triples text) := by
  induction triples using List.reverseRecOn generalizing text with
  | nil => exact .itself (by simp)
  | append_singleton front last ih =>
    rw [naming_concat, rename]
    split
    · next label => exact .label ⟨label.1, label.2.symm⟩ (by simp) (ih last.object.text)
    · next apart => exact (ih text).concat fun label => apart ⟨label.1, label.2.symm⟩

theorem called_iff : Called triples text name ↔ naming triples text = name :=
  ⟨Called.naming_eq, fun same => same ▸ called_naming triples text⟩

/-- The node of a text at an edge is drawn under what the text is called. That is the text itself
without a label, and the text of the object of its last label if the object has no label before that
one, and in general exactly if the object is still called by its own text there. -/
theorem name_of_node (statements : List Statement) {rank : Nat} {text : String}
    (shown : (shownTexts (Rdf.threeTerms statements))[rank]? = some text) :
    ∃ node items, (drawnNodes statements)[rank]? = some node ∧
      Dot.read? (write statements) = some items ∧ items[rank]? = some (nodeItem rank node) ∧
      Called (Rdf.threeTerms statements) text node.name ∧
      ((∀ triple ∈ Rdf.threeTerms statements, ¬ triple.LabelOf text) → node.name = text) ∧
      ∀ before triple after, Rdf.threeTerms statements = before ++ triple :: after →
        triple.LabelOf text → (∀ later ∈ after, ¬ later.LabelOf text) →
          ((∀ earlier ∈ before, ¬ earlier.LabelOf triple.object.text) →
            node.name = triple.object.text) ∧
          (node.name = triple.object.text ↔
            Called before triple.object.text triple.object.text) := by
  have drawn : (drawnNodes statements)[rank]? =
      some (nodeOf (Rdf.threeTerms statements) text) := by
    rw [drawnNodes_eq, List.getElem?_map, shown, Option.map_some]
  have item : (nodeItems (Rdf.threeTerms statements) ++
      edgeItems (Rdf.threeTerms statements))[rank]? =
        some (nodeItem rank (nodeOf (Rdf.threeTerms statements) text)) := by
    rw [List.getElem?_append_left]
    · simp [nodeItems, shown]
    · rw [nodeItems, List.length_map, List.length_zipIdx]
      exact (List.getElem?_eq_some_iff.mp shown).1
  refine ⟨_, _, drawn, read?_write statements, item, called_naming _ _,
    fun unlabelled => (Called.itself unlabelled).naming_eq, ?_⟩
  intro before triple after split label last
  have name : (nodeOf (Rdf.threeTerms statements) text).name =
      naming before triple.object.text := by
    rw [nodeOf, split, naming_of_label label last]
  rw [name]
  exact ⟨fun unlabelled => (Called.itself unlabelled).naming_eq, called_iff.symm⟩

/-- An answer with two labels. -/
def relabelledAnswer : List Statement :=
  let answer : Term := .iri "http://example_data.org/answer/0"
  [⟨[answer, .iri Vocabulary.rdfsLabel, .literal "Milling"]⟩,
    ⟨[.iri "http://example.org/gear", .iri "http://example.org/madeBy", answer]⟩,
    ⟨[answer, .iri Vocabulary.rdfsLabel, .literal "Face milling"]⟩]

/-- The second label is shown, which does not stand anywhere else. -/
theorem name_of_node_relabelled :
    (shownTexts (Rdf.threeTerms relabelledAnswer))[0]? = some "http://example_data.org/answer/0" ∧
      ∃ node items, (drawnNodes relabelledAnswer)[0]? = some node ∧
        Dot.read? (write relabelledAnswer) = some items ∧ items[0]? = some (nodeItem 0 node) ∧
        node.name = "Face milling" := by
  have shown : (shownTexts (Rdf.threeTerms relabelledAnswer))[0]? =
      some "http://example_data.org/answer/0" := by
    decide +kernel
  obtain ⟨node, items, drawn, read, item, -, -, labelled⟩ := name_of_node relabelledAnswer shown
  refine ⟨shown, node, items, drawn, read, item, ?_⟩
  let answer : Term := .iri "http://example_data.org/answer/0"
  obtain ⟨own, -⟩ := labelled
    [⟨answer, .iri Vocabulary.rdfsLabel, .literal "Milling"⟩,
      ⟨.iri "http://example.org/gear", .iri "http://example.org/madeBy", answer⟩]
    ⟨answer, .iri Vocabulary.rdfsLabel, .literal "Face milling"⟩ [] rfl
    (by decide +kernel) (by simp)
  exact own (by decide +kernel)

/-- An answer whose label is the text of another resource with a label. -/
def sharedLabel : List Statement :=
  let answer : Term := .iri "http://example_data.org/answer/0"
  [⟨[.iri "urn:milling", .iri Vocabulary.rdfsLabel, .literal "Milling"]⟩,
    ⟨[answer, .iri Vocabulary.rdfsLabel, .literal "urn:milling"]⟩,
    ⟨[.iri "http://example.org/gear", .iri "http://example.org/madeBy", answer]⟩]

/-- The answer is drawn under the label of the other resource, and not under its own. -/
theorem label_of_other_shown :
    (shownTexts (Rdf.threeTerms sharedLabel))[0]? = some "http://example_data.org/answer/0" ∧
      (∃ triple ∈ Rdf.threeTerms sharedLabel, triple.LabelOf "http://example_data.org/answer/0") ∧
      (∀ triple ∈ Rdf.threeTerms sharedLabel, triple.LabelOf "http://example_data.org/answer/0" →
        triple.object.text = "urn:milling") ∧
      (drawnNodes sharedLabel)[0]? = some ⟨"Milling", false⟩ ∧
      Dot.read? (write sharedLabel) =
        some [.node "n0" [("label", "Milling"), ("color", "#66789f"), ("shape", "triangle")],
          .node "n1" [("label", ""), ("color", "#dddddd"), ("shape", "dot")],
          .edge "n1" "n0" [("label", "madeBy"), ("color", "gray")]] := by
  refine ⟨?_, ?_, ?_, ?_, ?_⟩
  all_goals decide +kernel

/-! ## Edges -/

theorem mem_connections_distinct (graph : Graph) :
    triple ∈ connections (Rdf.threeTerms graph.distinct) ↔
      triple.statement ∈ graph.statements ∧ triple.Connects := by
  rw [connections, List.mem_filter, Rdf.mem_threeTerms, Graph.distinct, mem_firsts,
    decide_eq_true_iff]

/-- Of the distinct triples of a graph that speak of no type, exactly those that speak of no label
either are drawn, each as one edge between the nodes of its subject and its object; there are no
other edges. -/
theorem drawn_as_one_edge (graph : Graph) :
    let triples := Rdf.threeTerms graph.distinct
    let drawn := connections triples
    Dot.read? graph.drawing.toList = some (nodeItems triples ++ edgeItems triples) ∧
      edgeItems triples = (drawn.map fun triple =>
        edgeItem ((shownTexts triples).idxOf triple.subject.text)
          ((shownTexts triples).idxOf triple.object.text) triple.predicate.text) ∧
      (∀ triple ∈ drawn, ∀ text ∈ triple.ends,
        (nodeItems triples)[(shownTexts triples).idxOf text]? =
          some (nodeItem ((shownTexts triples).idxOf text) (nodeOf triples text))) ∧
      (∀ triple ∈ drawn, triple.statement ∈ graph.statements ∧ triple.Connects) ∧
      ∀ triple : Triple, triple.statement ∈ graph.statements → ¬ triple.Types →
        ((∃! position : Nat, drawn[position]? = some triple) ↔
          ¬ "label".toList <:+: triple.predicate.text.toList) := by
  intro triples drawn
  have distinct : drawn.Nodup := (Rdf.nodup_threeTerms (nodup_firsts graph.statements)).filter _
  have read : Dot.read? graph.drawing.toList = some (nodeItems triples ++ edgeItems triples) := by
    rw [Graph.drawing, String.toList_ofList]
    exact read?_write graph.distinct
  refine ⟨read, rfl, ?_, fun triple member => (mem_connections_distinct graph).mp member, ?_⟩
  · intro triple member text inside
    have shown : text ∈ shownTexts triples := mem_shownTexts.mpr ⟨triple, member, inside⟩
    rw [nodeItems, List.getElem?_map, List.getElem?_zipIdx, List.getElem?_idxOf shown]
    simp
  · intro triple stated noType
    constructor
    · rintro ⟨position, found, -⟩
      exact ((mem_connections_distinct graph).mp (List.mem_of_getElem? found)).2.2
    · intro noLabel
      have member : triple ∈ drawn := (mem_connections_distinct graph).mpr ⟨stated, noType, noLabel⟩
      refine ⟨drawn.idxOf triple, List.getElem?_idxOf member, ?_⟩
      intro other found
      obtain ⟨inside, same⟩ := List.getElem?_eq_some_iff.mp found
      rw [← same, distinct.idxOf_getElem other inside]

/-- A relation that is stated twice is drawn once. -/
theorem drawn_as_one_edge_repeated :
    let graph : Graph := { statements := quotedAnswer }
    let madeBy : Triple := ⟨.iri "http://example.org/gear", .iri "http://example.org/madeBy",
      .iri "http://example_data.org/answer/0"⟩
    graph.statements.count madeBy.statement = 2 ∧
      (∃! position : Nat, (connections (Rdf.threeTerms graph.distinct))[position]? = some madeBy) ∧
      Dot.read? graph.drawing.toList =
        some [.node "n0" [("label", "5\" \\ mill\\"), ("color", "#66789f"), ("shape", "triangle")],
          .node "n1" [("label", ""), ("color", "#dce4f5"), ("shape", "dot")],
          .edge "n1" "n0" [("label", "madeBy"), ("color", "gray")]] := by
  intro graph madeBy
  obtain ⟨read, -, -, -, once⟩ := drawn_as_one_edge graph
  refine ⟨by decide +kernel, ?_, read.trans (by decide +kernel)⟩
  exact (once madeBy (by decide +kernel) (by decide +kernel)).mpr (by decide +kernel)

/-- A gear and the one who labelled it. -/
def labelledGear : Triple where
  subject := .iri "http://example.org/gear"
  predicate := .iri "http://example.org/labelledBy"
  object := .iri "http://example.org/shop"

/-- Their relation is not that of a label and speaks of no type, but it is not drawn. -/
theorem relation_taken_for_label :
    let graph : Graph := { statements := [labelledGear.statement] }
    labelledGear.statement ∈ graph.distinct ∧
      labelledGear.predicate.text ≠ Vocabulary.rdfsLabel ∧ ¬ labelledGear.Types ∧
      graph.drawing = "digraph \x7b\n\x7d" ∧ Dot.read? graph.drawing.toList = some [] := by
  refine ⟨?_, ?_, ?_, ?_, ?_⟩
  all_goals decide +kernel

end Drawing

end AnswerGraph
