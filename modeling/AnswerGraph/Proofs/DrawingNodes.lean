import AnswerGraph.Proofs.DrawingText
import AnswerGraph.Proofs.Firsts
import AnswerGraph.Proofs.LinkedFormats
import AnswerGraph.Proofs.TextSearch
import Mathlib.Data.List.Infix
import Mathlib.Data.List.Nodup

/-!
What a drawing shows. Nodes are first numbered as their texts appear, then changed by triples that
speak of types and labels, and those at an end of an edge are numbered again. In the end each text
at an edge has one node, in the order of first appearance, and each edge joins the nodes of its own
texts.
-/

namespace AnswerGraph

namespace Triple

/-- The texts that a triple joins. -/
def ends (triple : Triple) : List String := [triple.subject.text, triple.object.text]

/-- Whether the predicate speaks of a type. -/
def Types (triple : Triple) : Prop := "type".toList <:+: triple.predicate.text.toList

/-- Whether the predicate speaks of a label, and of no type. -/
def Labels (triple : Triple) : Prop :=
  ¬ triple.Types ∧ "label".toList <:+: triple.predicate.text.toList

/-- Whether the predicate speaks of neither, so that the triple is drawn as an edge. -/
def Connects (triple : Triple) : Prop :=
  ¬ triple.Types ∧ ¬ "label".toList <:+: triple.predicate.text.toList

instance (triple : Triple) : Decidable triple.Types :=
  inferInstanceAs (Decidable (_ <:+: _))

instance (triple : Triple) : Decidable triple.Labels :=
  inferInstanceAs (Decidable (¬ _ ∧ _ <:+: _))

instance (triple : Triple) : Decidable triple.Connects :=
  inferInstanceAs (Decidable (¬ _ ∧ ¬ _ <:+: _))

theorem subject_mem_ends (triple : Triple) : triple.subject.text ∈ triple.ends :=
  List.mem_cons_self

theorem object_mem_ends (triple : Triple) : triple.object.text ∈ triple.ends :=
  List.mem_cons_of_mem _ List.mem_cons_self

end Triple

namespace Drawing

variable {triples : List Triple} {triple : Triple} {names : List String} {name : String}

/-! ## Positions -/

/-- A change at the position of a name is a change of what belongs to the name. -/
theorem modify_idxOf (distinct : names.Nodup) (node : String → Node) (change : Node → Node) :
    (names.map node).modify (names.idxOf name) change =
      names.map fun other => if other = name then change (node other) else node other := by
  induction names with
  | nil => rfl
  | cons first rest ih =>
    obtain ⟨fresh, distinct⟩ := List.nodup_cons.mp distinct
    by_cases same : first = name
    · subst same
      have others : ∀ other ∈ rest, (if other = first then change (node other) else node other) =
          node other := by
        intro other member
        exact if_neg (ne_of_mem_of_not_mem member fresh)
      rw [List.idxOf_cons_self, List.map_cons, List.modify_zero_cons, List.map_cons, if_pos rfl,
        List.map_congr_left others]
    · rw [List.idxOf_cons_ne _ same, List.map_cons, List.modify_succ_cons, ih distinct,
        List.map_cons, if_neg same]

theorem map_idxOf (distinct : names.Nodup) : names.map names.idxOf = List.range names.length := by
  apply List.ext_getElem
  · simp
  · intro position inside _
    rw [List.getElem_map, List.getElem_range]
    exact distinct.idxOf_getElem position _

theorem getElem?_map_idxOf (member : name ∈ names) (node : String → Node) :
    (names.map node)[names.idxOf name]? = some (node name) := by
  rw [List.getElem?_map, List.getElem?_idxOf member, Option.map_some]

theorem idxOf?_of_mem (member : name ∈ names) : names.idxOf? name = some (names.idxOf name) := by
  obtain ⟨position, found⟩ := Option.isSome_iff_exists.mp (List.isSome_idxOf?.mpr member)
  rw [List.idxOf_eq_getD_idxOf?, found, Option.getD_some]

/-- A name is found among the values of names that they tell apart. -/
theorem idxOf?_map {value : String → Nat}
    (apart : ∀ other ∈ names, value other = value name → other = name) :
    (names.map value).idxOf? (value name) = names.idxOf? name := by
  induction names with
  | nil => rfl
  | cons first rest ih =>
    have others := ih fun other member => apart other (List.mem_cons_of_mem _ member)
    have same : (value first == value name) = (first == name) := by
      rw [Bool.eq_iff_iff, beq_iff_eq, beq_iff_eq]
      exact ⟨apart first List.mem_cons_self, congrArg value⟩
    rw [List.map_cons, List.idxOf?_cons, List.idxOf?_cons, same, others]

/-! ## Collecting nodes and edges -/

/-- The texts of triples in the order of first appearance. -/
def textsOf (triples : List Triple) : List String := firsts (triples.flatMap Triple.ends)

/-- The edge of a triple between the positions of its texts. -/
def edgeOf (names : List String) (triple : Triple) : Edge :=
  ⟨triple.predicate.text, names.idxOf triple.subject.text, names.idxOf triple.object.text⟩

theorem mem_textsOf : name ∈ textsOf triples ↔ ∃ triple ∈ triples, name ∈ triple.ends := by
  rw [textsOf, mem_firsts, List.mem_flatMap]

theorem nodup_textsOf (triples : List Triple) : (textsOf triples).Nodup :=
  nodup_firsts _

/-- A name is looked up among the first occurrences, or put behind them. -/
theorem position_firsts (seen : List String) (name : String) :
    position ((firsts seen).map fun text => { name := text }) name =
      ((firsts (seen ++ [name])).idxOf name,
        (firsts (seen ++ [name])).map fun text => { name := text }) := by
  have search : ((firsts seen).map fun text => ({ name := text } : Node)).findIdx?
      (·.name == name) = (firsts seen).idxOf? name := by
    rw [List.findIdx?_map]
    rfl
  by_cases known : name ∈ seen
  · have found := idxOf?_of_mem ((mem_firsts seen name).mpr known)
    rw [position, search, found, firsts_concat_of_mem known]
  · have absent : name ∉ firsts seen := fun member => known ((mem_firsts seen name).mp member)
    rw [position, search, List.idxOf?_eq_none_iff.mpr absent, firsts_concat_of_not_mem known]
    simp [List.idxOf_append_of_notMem absent]

/-- Texts that come later do not move the ends of an edge. -/
theorem edgeOf_append (member : triple ∈ triples) (more : List Triple) :
    edgeOf (textsOf (triples ++ more)) triple = edgeOf (textsOf triples) triple := by
  have longer : textsOf triples <+: textsOf (triples ++ more) := by
    rw [textsOf, textsOf, List.flatMap_append]
    exact prefix_firsts _ _
  have known : ∀ text ∈ triple.ends, text ∈ textsOf triples :=
    fun text inside => mem_textsOf.mpr ⟨triple, member, inside⟩
  rw [edgeOf, edgeOf, longer.idxOf_eq_of_mem (known _ triple.subject_mem_ends),
    longer.idxOf_eq_of_mem (known _ triple.object_mem_ends)]

/-- What is collected of triples: a node for each text, and an edge for each triple. -/
def collected (triples : List Triple) : State where
  nodes := (textsOf triples).map fun text => { name := text }
  edges := triples.map (edgeOf (textsOf triples))

/-- Collecting one more statement. -/
theorem addStatement_collected (triples : List Triple) (statement : Statement) :
    addStatement (collected triples) statement =
      collected (triples ++ Rdf.threeTerms [statement]) := by
  cases shape : statement.triple? with
  | none => simp [addStatement, Rdf.threeTerms, shape]
  | some terms =>
    obtain ⟨subject, predicate, object⟩ := terms
    have one : Rdf.threeTerms [statement] = [⟨subject, predicate, object⟩] := by
      simp [Rdf.threeTerms, shape]
    have texts : textsOf (triples ++ [⟨subject, predicate, object⟩]) =
        firsts (triples.flatMap Triple.ends ++ [subject.text] ++ [object.text]) := by
      simp [textsOf, Triple.ends]
    have source : (firsts (triples.flatMap Triple.ends ++ [subject.text])).idxOf subject.text =
        (textsOf (triples ++ [⟨subject, predicate, object⟩])).idxOf subject.text := by
      rw [texts]
      exact (prefix_firsts _ _).idxOf_eq_of_mem ((mem_firsts _ _).mpr (by simp))
    have edges : triples.map (edgeOf (textsOf triples)) =
        triples.map (edgeOf (textsOf (triples ++ [⟨subject, predicate, object⟩]))) :=
      List.map_congr_left fun _ member => (edgeOf_append member _).symm
    rw [one, addStatement, shape]
    simp only [collected, textsOf, position_firsts] at edges source texts ⊢
    rw [source, edges, ← texts]
    simp [edgeOf]

theorem ofStatements_eq (statements : List Statement) :
    ofStatements statements = collected (Rdf.threeTerms statements) := by
  induction statements using List.reverseRecOn with
  | nil => rfl
  | append_singleton front last ih =>
    have split : Rdf.threeTerms (front ++ [last]) =
        Rdf.threeTerms front ++ Rdf.threeTerms [last] := List.filterMap_append
    rw [ofStatements, List.foldl_append, List.foldl_cons, List.foldl_nil, ← ofStatements, ih,
      addStatement_collected, split]

/-! ## Types and labels -/

/-- What the texts are called after one more triple: a label gives its subject what its object is
called. -/
def rename (naming : String → String) (triple : Triple) (text : String) : String :=
  if triple.Labels ∧ text = triple.subject.text then naming triple.object.text else naming text

/-- What a text is called after triples, one after the other. -/
def naming (triples : List Triple) : String → String := triples.foldl rename id

/-- The node of a text after triples. -/
def nodeOf (triples : List Triple) (text : String) : Node where
  name := naming triples text
  typed := triples.any fun triple => triple.Types ∧ triple.subject.text = text

theorem naming_concat (triples : List Triple) (triple : Triple) :
    naming (triples ++ [triple]) = rename (naming triples) triple := by
  rw [naming, List.foldl_append]
  rfl

theorem isTyping_edgeOf : isTyping (edgeOf names triple) = true ↔ triple.Types :=
  Text.contains_iff

theorem isLabelling_edgeOf : isLabelling (edgeOf names triple) = true ↔ triple.Labels := by
  rw [isLabelling, Bool.and_eq_true, Bool.not_eq_true', Bool.eq_false_iff, ne_eq, isTyping_edgeOf]
  exact and_congr_right fun _ => Text.contains_iff

theorem isDrawn_edgeOf : isDrawn (edgeOf names triple) = decide triple.Connects := by
  rw [Bool.eq_iff_iff, decide_eq_true_iff, isDrawn, Bool.and_eq_true, Bool.not_eq_true',
    Bool.not_eq_true', Bool.eq_false_iff, Bool.eq_false_iff, ne_eq, ne_eq, isTyping_edgeOf,
    isLabelling_edgeOf]
  exact and_congr_right fun noType => not_congr (and_iff_right noType)

/-- A triple changes the nodes of all texts as it changes what belongs to them. -/
theorem apply_edgeOf (distinct : names.Nodup) (known : ∀ text ∈ triple.ends, text ∈ names) :
    apply (names.map (nodeOf triples)) (edgeOf names triple) =
      names.map (nodeOf (triples ++ [triple])) := by
  have object : triple.object.text ∈ names := known _ triple.object_mem_ends
  by_cases types : triple.Types
  · have unlabelled : ¬ triple.Labels := fun labels => labels.1 types
    rw [apply, if_pos (isTyping_edgeOf.mpr types), edgeOf, modify_idxOf distinct]
    apply List.map_congr_left
    intro text _
    by_cases same : text = triple.subject.text
    · simp [nodeOf, naming_concat, rename, unlabelled, types, same]
    · simp [nodeOf, naming_concat, rename, unlabelled, same, Ne.symm same]
  · rw [apply, if_neg (mt isTyping_edgeOf.mp types)]
    by_cases labels : triple.Labels
    · have target : (names.map (nodeOf triples))[(edgeOf names triple).target]? =
          some (nodeOf triples triple.object.text) := getElem?_map_idxOf object _
      rw [if_pos (isLabelling_edgeOf.mpr labels), target, edgeOf]
      simp only [modify_idxOf distinct]
      apply List.map_congr_left
      intro text _
      by_cases same : text = triple.subject.text
      · simp [nodeOf, naming_concat, rename, labels, types, same]
      · simp [nodeOf, naming_concat, rename, types, same]
    · rw [if_neg (mt isLabelling_edgeOf.mp labels)]
      apply List.map_congr_left
      intro text _
      simp [nodeOf, naming_concat, rename, labels, types]

/-- The nodes after all triples. -/
theorem foldl_apply (distinct : names.Nodup)
    (known : ∀ triple ∈ triples, ∀ text ∈ triple.ends, text ∈ names) :
    (triples.map (edgeOf names)).foldl apply (names.map fun text => { name := text }) =
      names.map (nodeOf triples) := by
  induction triples using List.reverseRecOn with
  | nil => rfl
  | append_singleton front last ih =>
    have before := ih fun triple member => known triple (List.mem_append_left _ member)
    rw [List.map_append, List.foldl_append, before]
    exact apply_edgeOf distinct (known last (by simp))

/-! ## Nodes at edges -/

/-- The triples that are drawn. -/
def connections (triples : List Triple) : List Triple :=
  triples.filter fun triple => triple.Connects

/-- The texts at an edge, in the order of first appearance in any triple. -/
def shownTexts (triples : List Triple) : List String :=
  (textsOf triples).filter fun text =>
    (connections triples).any fun triple => triple.ends.contains text

theorem mem_shownTexts :
    name ∈ shownTexts triples ↔ ∃ triple ∈ connections triples, name ∈ triple.ends := by
  simp only [shownTexts, List.mem_filter, mem_textsOf, List.any_eq_true, List.contains_iff_mem]
  constructor
  · exact fun ⟨_, drawn⟩ => drawn
  · rintro ⟨triple, member, inside⟩
    exact ⟨⟨triple, List.mem_of_mem_filter member, inside⟩, triple, member, inside⟩

theorem nodup_shownTexts (triples : List Triple) : (shownTexts triples).Nodup :=
  (nodup_textsOf triples).filter _

/-- The used positions are those of the texts at an edge. -/
theorem usedNodes_eq (triples : List Triple) :
    usedNodes (textsOf triples).length ((connections triples).map (edgeOf (textsOf triples))) =
      (shownTexts triples).map (textsOf triples).idxOf := by
  rw [usedNodes, ← map_idxOf (nodup_textsOf triples), List.filter_map, shownTexts]
  congr 1
  apply List.filter_congr
  intro text inside
  rw [Bool.eq_iff_iff]
  simp only [Function.comp_apply, List.any_map, List.any_eq_true, Bool.or_eq_true, beq_iff_eq,
    edgeOf, List.contains_iff_mem, Triple.ends, List.mem_cons, List.not_mem_nil, or_false,
    eq_comm (b := (textsOf triples).idxOf text), List.idxOf_inj inside]

/-- The ends of a drawn edge have numbers of their own. -/
theorem idxOf?_used (member : name ∈ shownTexts triples) :
    ((shownTexts triples).map (textsOf triples).idxOf).idxOf? ((textsOf triples).idxOf name) =
      some ((shownTexts triples).idxOf name) := by
  have apart : ∀ other ∈ shownTexts triples,
      (textsOf triples).idxOf other = (textsOf triples).idxOf name → other = name :=
    fun other inside => (List.idxOf_inj (List.mem_of_mem_filter inside)).mp
  exact (idxOf?_map apart).trans (idxOf?_of_mem member)

theorem chosen_eq (triples : List Triple) (node : String → Node) :
    (((shownTexts triples).map (textsOf triples).idxOf).filterMap fun index =>
        ((textsOf triples).map node)[index]?) = (shownTexts triples).map node := by
  have found : ∀ text ∈ shownTexts triples,
      ((textsOf triples).map node)[(textsOf triples).idxOf text]? = some (node text) :=
    fun text member => getElem?_map_idxOf (List.mem_of_mem_filter member) node
  rw [List.filterMap_map]
  exact (List.filterMap_congr found).trans (congrFun List.filterMap_eq_map _)

/-! ## The drawing -/

/-- The nodes of a drawing, numbered in the order of their texts. -/
def nodeItems (triples : List Triple) : List Dot.Item :=
  (shownTexts triples).zipIdx.map fun (text, rank) => nodeItem rank (nodeOf triples text)

/-- The edges of a drawing, one for each triple that is drawn, between the nodes of its texts. -/
def edgeItems (triples : List Triple) : List Dot.Item :=
  (connections triples).map fun triple =>
    edgeItem ((shownTexts triples).idxOf triple.subject.text)
      ((shownTexts triples).idxOf triple.object.text) triple.predicate.text

theorem ends_shown (member : triple ∈ connections triples) :
    triple.subject.text ∈ shownTexts triples ∧ triple.object.text ∈ shownTexts triples := by
  constructor
  · exact mem_shownTexts.mpr ⟨triple, member, triple.subject_mem_ends⟩
  · exact mem_shownTexts.mpr ⟨triple, member, triple.object_mem_ends⟩

theorem finalNodes_eq (statements : List Statement) :
    let triples := Rdf.threeTerms statements
    finalNodes statements = (textsOf triples).map (nodeOf triples) := by
  intro triples
  rw [finalNodes, ofStatements_eq]
  exact foldl_apply (nodup_textsOf triples)
    fun triple member text inside => mem_textsOf.mpr ⟨triple, member, inside⟩

theorem drawnEdges_eq (statements : List Statement) :
    let triples := Rdf.threeTerms statements
    drawnEdges statements = (connections triples).map (edgeOf (textsOf triples)) := by
  intro triples
  rw [drawnEdges, ofStatements_eq, collected, List.filter_map, connections]
  congr 1
  apply List.filter_congr
  exact fun triple _ => isDrawn_edgeOf

theorem usedPositions_eq (statements : List Statement) :
    let triples := Rdf.threeTerms statements
    usedPositions statements = (shownTexts triples).map (textsOf triples).idxOf := by
  intro triples
  rw [usedPositions, finalNodes_eq, List.length_map, drawnEdges_eq, usedNodes_eq]

theorem drawnNodes_eq (statements : List Statement) :
    let triples := Rdf.threeTerms statements
    drawnNodes statements = (shownTexts triples).map (nodeOf triples) := by
  intro triples
  rw [drawnNodes, usedPositions_eq, finalNodes_eq, chosen_eq]

theorem read?_write (statements : List Statement) :
    let triples := Rdf.threeTerms statements
    Dot.read? (write statements) = some (nodeItems triples ++ edgeItems triples) := by
  intro triples
  have nodes : (((shownTexts triples).map (nodeOf triples)).zipIdx.map
      fun placed => nodeItem placed.2 placed.1) = nodeItems triples := by
    rw [List.zipIdx_map, List.map_map, nodeItems]
    rfl
  rw [write_eq, read?_document, drawnNodes_eq, nodes, drawnEdges_eq, List.map_map]
  congr 2
  apply List.map_congr_left
  intro triple member
  obtain ⟨subject, object⟩ := ends_shown member
  simp only [Function.comp_apply, usedPositions_eq, edgeOf, number, idxOf?_used subject,
    idxOf?_used object, Option.getD_some, triples]

/-- The text of a drawing is read back: its header, then one node for each text at an edge, numbered
in the order of first appearance, and then the edges, one for each triple that speaks of neither
type nor label, with what is behind the last slash of its predicate. Nodes have identifiers of their
own, and an edge joins those of its own texts, whose numbers are always found. No quoted text ends
before its end. -/
theorem read_of_drawn (statements : List Statement) :
    let triples := Rdf.threeTerms statements
    let shown := shownTexts triples
    Dot.read? (write statements) = some (nodeItems triples ++ edgeItems triples) ∧
      (shown.Nodup ∧ shown.Sublist (textsOf triples) ∧
        ∀ text, text ∈ shown ↔ ∃ triple ∈ triples, triple.Connects ∧ text ∈ triple.ends) ∧
      (Function.Injective nodeId ∧ ∀ triple ∈ connections triples, ∀ text ∈ triple.ends,
        shown[shown.idxOf text]? = some text) ∧
      (∀ edge ∈ drawnEdges statements,
        ((usedPositions statements).idxOf? edge.source).isSome = true ∧
          ((usedPositions statements).idxOf? edge.target).isSome = true) ∧
      (∀ predicate : String, ∃ front, predicate = front ++ caption predicate ∧
        '/' ∉ (caption predicate).toList ∧ (front = "" ∨ front.toList.getLast? = some '/')) ∧
      ∀ (text : String) (rest : List Char) (tokens : List Dot.Token) (mode : Dot.Mode),
        Dot.scan .between rest = some (tokens, mode) →
          Dot.scan .between (quote text ++ rest) = some (.quoted text.toList :: tokens, mode) := by
  intro triples shown
  refine ⟨read?_write statements, ⟨nodup_shownTexts triples, List.filter_sublist, ?_⟩,
    ⟨fun first second => nodeId_injective, ?_⟩, ?_, ?_, ?_⟩
  · intro text
    rw [mem_shownTexts]
    simp only [connections, List.mem_filter, decide_eq_true_iff, and_assoc]
  · intro triple member text inside
    exact List.getElem?_idxOf (mem_shownTexts.mpr ⟨triple, member, inside⟩)
  · intro edge member
    rw [drawnEdges_eq] at member
    obtain ⟨triple, inside, rfl⟩ := List.mem_map.mp member
    obtain ⟨subject, object⟩ := ends_shown inside
    rw [usedPositions_eq, edgeOf, idxOf?_used subject, idxOf?_used object]
    exact ⟨rfl, rfl⟩
  · intro predicate
    obtain ⟨front, whole, unmarked, last⟩ := Text.exists_of_afterLast '/' predicate.toList
    refine ⟨String.ofList front, ?_, ?_, ?_⟩
    · rw [← String.toList_inj, String.toList_append, caption, String.toList_ofList,
        String.toList_ofList, ← whole]
    · rwa [caption, String.toList_ofList]
    · rw [String.toList_ofList]
      exact last.imp_left fun empty => by rw [empty]
  · intro text rest tokens mode scanned
    exact Dot.scan_append (scan_quote text) scanned

/-- An answer whose label has quotes and a backslash, a typed gear that is joined to it twice, and a
statement that is no triple. -/
def quotedAnswer : List Statement :=
  let answer : Term := .iri "http://example_data.org/answer/0"
  let gear : Term := .iri "http://example.org/gear"
  let madeBy : Term := .iri "http://example.org/madeBy"
  [⟨[answer, .iri Vocabulary.rdfsLabel, .literal "5\" \\ mill\\"]⟩, ⟨[gear, madeBy, answer]⟩,
    ⟨[gear]⟩, ⟨[gear, .iri Vocabulary.rdfType, .iri "http://example.org/Part"]⟩,
    ⟨[gear, madeBy, answer]⟩]

/-- The label is read back as it was, and both edges join the gear to it. -/
theorem read_of_drawn_quoted :
    write quotedAnswer =
        ("digraph \x7b\n" ++
          "  n0 [label=\"5\\\" \\\\ mill\\\\\", color=\"#66789f\", shape=triangle];\n" ++
          "  n1 [label=\"\", color=\"#dce4f5\", shape=dot];\n" ++
          "  n1 -> n0 [label=\"madeBy\", color=gray];\n" ++
          "  n1 -> n0 [label=\"madeBy\", color=gray];\n\x7d").toList ∧
      Dot.read? (write quotedAnswer) =
        some [.node "n0" [("label", "5\" \\ mill\\"), ("color", "#66789f"), ("shape", "triangle")],
          .node "n1" [("label", ""), ("color", "#dce4f5"), ("shape", "dot")],
          .edge "n1" "n0" [("label", "madeBy"), ("color", "gray")],
          .edge "n1" "n0" [("label", "madeBy"), ("color", "gray")]] := by
  obtain ⟨read, -⟩ := read_of_drawn quotedAnswer
  refine ⟨by decide +kernel, read.trans ?_⟩
  decide +kernel

end Drawing

end AnswerGraph
