import AnswerGraph.Proofs.DrawingLabels

/-!
How nodes look. Label, colour and shape of a node are taken from its name by three tests: whether
`http` stands in it, whether `http:` or `https:` does, and whether there is a label. They agree on
every name that is an http IRI, and on every other that is not empty and does not have `http`
anywhere; a name that is empty or speaks of `http` without being an IRI is drawn as a dot in the
colour of a literal.
-/

namespace AnswerGraph

namespace Drawing

/-- What a node line says about a node beside its identifier. -/
structure Look where
  label : String
  color : String
  shape : String
  deriving DecidableEq, Repr

namespace Look

/-- Literals are triangles under their name. -/
def literal (name : String) : Look := ⟨name, "#66789f", "triangle"⟩

/-- Resources are dots without a label; typed ones have a colour of their own. -/
def resource (typed : Bool) : Look := ⟨"", if typed then "#dce4f5" else "#dddddd", "dot"⟩

/-- A dot without a label, but in the colour of literals. -/
def unlabelled : Look := ⟨"", "#66789f", "dot"⟩

def attributes (look : Look) : List (String × String) :=
  [("label", look.label), ("color", look.color), ("shape", look.shape)]

theorem literal_ne_resource (name : String) (typed : Bool) : literal name ≠ resource typed := by
  simp [literal, resource]

theorem unlabelled_ne_literal (name : String) : unlabelled ≠ literal name := by
  simp [unlabelled, literal]

end Look

/-- A name that starts like an address of the web. -/
def IsHttpIri (name : String) : Prop :=
  "http://".toList <+: name.toList ∨ "https://".toList <+: name.toList

/-- A name that has the scheme of such an address in it, at any place. -/
def HasScheme (name : String) : Prop :=
  "http:".toList <:+: name.toList ∨ "https:".toList <:+: name.toList

/-- A name with the word that schemes begin with in it, at any place. -/
def SpeaksOfHttp (name : String) : Prop := "http".toList <:+: name.toList

instance (name : String) : Decidable (IsHttpIri name) := inferInstanceAs (Decidable (_ ∨ _))

instance (name : String) : Decidable (HasScheme name) := inferInstanceAs (Decidable (_ ∨ _))

instance (name : String) : Decidable (SpeaksOfHttp name) := inferInstanceAs (Decidable (_ <:+: _))

theorem IsHttpIri.hasScheme {name : String} (address : IsHttpIri name) : HasScheme name := by
  rcases address with plain | secure
  · exact .inl (List.IsPrefix.trans (by decide) plain).isInfix
  · exact .inr (List.IsPrefix.trans (by decide) secure).isInfix

theorem HasScheme.speaksOfHttp {name : String} (scheme : HasScheme name) : SpeaksOfHttp name := by
  rcases scheme with plain | secure
  · exact List.IsInfix.trans (by decide) plain
  · exact List.IsInfix.trans (by decide) secure

namespace Node

variable {node : Node}

/-! ## The three tests -/

theorem color_of_scheme (scheme : HasScheme node.name) :
    node.color = if node.typed then "#dce4f5" else "#dddddd" := by
  have found : (!mentions "http:" node.name && !mentions "https:" node.name) = false := by
    rcases scheme with plain | secure
    · rw [mentions, Text.contains_iff.mpr plain, Bool.not_true, Bool.false_and]
    · rw [mentions, mentions, Text.contains_iff.mpr secure, Bool.not_true, Bool.and_false]
  rw [color, found, if_neg Bool.false_ne_true]

theorem color_of_no_scheme (absent : ¬ HasScheme node.name) : node.color = "#66789f" := by
  obtain ⟨noPlain, noSecure⟩ := not_or.mp absent
  have missing : (!mentions "http:" node.name && !mentions "https:" node.name) = true := by
    rw [mentions, mentions, Bool.and_eq_true, Bool.not_eq_true', Bool.not_eq_true',
      Bool.eq_false_iff, Bool.eq_false_iff, ne_eq, ne_eq, Text.contains_iff, Text.contains_iff]
    exact ⟨noPlain, noSecure⟩
  rw [color, if_pos missing]

theorem label_of_http (http : SpeaksOfHttp node.name) : node.label = "" := by
  rw [label, mentions, if_pos (Text.contains_iff.mpr http)]

theorem label_of_no_http (absent : ¬ SpeaksOfHttp node.name) : node.label = node.name := by
  rw [label, mentions, if_neg (mt Text.contains_iff.mp absent)]

theorem shape_of_label (empty : node.label = "") : shape node = "dot" := by
  rw [shape, empty]
  rfl

theorem shape_of_no_label (filled : node.label ≠ "") : shape node = "triangle" := by
  rw [shape, if_neg (mt String.isEmpty_iff.mp filled)]

/-! ## The look of a node -/

/-- What the line of a node says. -/
def look (node : Node) : Look := ⟨node.label, node.color, shape node⟩

/-- What the line of a node would say if http IRIs were drawn as resources and all else as
literals. -/
def lookOfKind (node : Node) : Look :=
  if IsHttpIri node.name then .resource node.typed else .literal node.name

theorem look_of_scheme (scheme : HasScheme node.name) : node.look = .resource node.typed := by
  have unlabelled := label_of_http scheme.speaksOfHttp
  rw [look, unlabelled, color_of_scheme scheme, shape_of_label unlabelled, Look.resource]

theorem look_of_literal (filled : node.name ≠ "") (absent : ¬ SpeaksOfHttp node.name) :
    node.look = .literal node.name := by
  have labelled := label_of_no_http absent
  rw [look, labelled, color_of_no_scheme (mt HasScheme.speaksOfHttp absent),
    shape_of_no_label (labelled ▸ filled), Look.literal]

/-- The tests disagree: there is nothing to write, but the colour is that of a literal. -/
theorem look_of_neither (absent : ¬ HasScheme node.name)
    (other : node.name = "" ∨ SpeaksOfHttp node.name) : node.look = .unlabelled := by
  have empty : node.label = "" := by
    by_cases http : SpeaksOfHttp node.name
    · exact label_of_http http
    · exact (label_of_no_http http).trans (other.resolve_right http)
  rw [look, empty, color_of_no_scheme absent, shape_of_label empty, Look.unlabelled]

/-- A node is drawn as what it is exactly if its name is an http IRI, or is not empty and does not
speak of `http`. -/
theorem look_eq_lookOfKind_iff :
    node.look = node.lookOfKind ↔
      IsHttpIri node.name ∨ node.name ≠ "" ∧ ¬ SpeaksOfHttp node.name := by
  constructor
  · intro same
    by_contra neither
    obtain ⟨noAddress, other⟩ := not_or.mp neither
    have missing : node.name = "" ∨ SpeaksOfHttp node.name := by
      by_contra both
      obtain ⟨filled, absent⟩ := not_or.mp both
      exact other ⟨filled, absent⟩
    rw [lookOfKind, if_neg noAddress] at same
    by_cases scheme : HasScheme node.name
    · rw [look_of_scheme scheme] at same
      exact Look.literal_ne_resource _ _ same.symm
    · rw [look_of_neither scheme missing] at same
      exact Look.unlabelled_ne_literal _ same
  · rintro (address | ⟨filled, absent⟩)
    · rw [lookOfKind, if_pos address, look_of_scheme address.hasScheme]
    · rw [lookOfKind, if_neg (mt IsHttpIri.hasScheme (mt HasScheme.speaksOfHttp absent)),
        look_of_literal filled absent]

end Node

/-! ## Drawn nodes -/

/-- A node that is drawn is that of a text at an edge, and its line is read back at its number. -/
theorem exists_text_of_drawn (statements : List Statement) {rank : Nat} {node : Node}
    (drawn : (drawnNodes statements)[rank]? = some node) :
    ∃ text items, (shownTexts (Rdf.threeTerms statements))[rank]? = some text ∧
      node = nodeOf (Rdf.threeTerms statements) text ∧
      Dot.read? (write statements) = some items ∧
      items[rank]? = some (.node (nodeId rank) node.look.attributes) := by
  rw [drawnNodes_eq, List.getElem?_map] at drawn
  obtain ⟨text, shown, rfl⟩ := Option.map_eq_some_iff.mp drawn
  refine ⟨text, _, shown, rfl, read?_write statements, ?_⟩
  rw [List.getElem?_append_left]
  · rw [nodeItems, List.getElem?_map, List.getElem?_zipIdx, shown, Option.map_some, Option.map_some,
      Nat.zero_add]
    rfl
  · rw [nodeItems, List.length_map, List.length_zipIdx]
    exact (List.getElem?_eq_some_iff.mp shown).1

theorem typed_nodeOf {statements : List Statement} {text : String} :
    (nodeOf (Rdf.threeTerms statements) text).typed = true ↔
      ∃ triple : Triple, triple.statement ∈ statements ∧ triple.subject.text = text ∧
        triple.Types := by
  simp only [nodeOf, List.any_eq_true, decide_eq_true_iff, Rdf.mem_threeTerms,
    and_comm (a := Triple.Types _)]

/-- How a node is drawn. It has the name that its text is called by, and is typed exactly if some
triple with that text as its subject speaks of a type. With the scheme of a web address anywhere in
the name it is drawn as a resource, in the colour of typed ones if it is typed; without `http` in it
a name that is not empty is drawn as a literal; all others are dots without a label in the colour of
literals. So a node looks like what it is exactly if its name is an http IRI, or is not empty and
does not speak of `http`. -/
theorem look_of_drawn (statements : List Statement) {rank : Nat} {node : Node}
    (drawn : (drawnNodes statements)[rank]? = some node) :
    ∃ text items, (shownTexts (Rdf.threeTerms statements))[rank]? = some text ∧
      Dot.read? (write statements) = some items ∧
      items[rank]? = some (.node (nodeId rank) node.look.attributes) ∧
      Called (Rdf.threeTerms statements) text node.name ∧
      (node.typed = true ↔ ∃ triple : Triple, triple.statement ∈ statements ∧
        triple.subject.text = text ∧ triple.Types) ∧
      (HasScheme node.name → node.look = .resource node.typed) ∧
      (node.name ≠ "" → ¬ SpeaksOfHttp node.name → node.look = .literal node.name) ∧
      (¬ HasScheme node.name → node.name = "" ∨ SpeaksOfHttp node.name →
        node.look = .unlabelled) ∧
      (node.look = node.lookOfKind ↔
        IsHttpIri node.name ∨ node.name ≠ "" ∧ ¬ SpeaksOfHttp node.name) := by
  obtain ⟨text, items, shown, rfl, read, item⟩ := exists_text_of_drawn statements drawn
  refine ⟨text, items, shown, read, item, called_naming _ _, typed_nodeOf, ?_, ?_, ?_, ?_⟩
  · exact Node.look_of_scheme
  · exact Node.look_of_literal
  · exact Node.look_of_neither
  · exact Node.look_eq_lookOfKind_iff

/-- A typed answer that is called by a web address, and a tool with a name of its own. -/
def addressedAnswer : List Statement :=
  let answer : Term := .iri "http://example_data.org/answer/0"
  [⟨[answer, .iri Vocabulary.rdfType, .iri "http://example.org/Process"]⟩,
    ⟨[answer, .iri Vocabulary.rdfsLabel, .literal "https://example.org/milling"]⟩,
    ⟨[answer, .iri "http://example.org/madeWith", .literal "end mill"]⟩]

/-- The answer looks like a typed resource under its new name too, and the tool like a literal. -/
theorem look_of_drawn_addressed :
    (drawnNodes addressedAnswer)[0]? = some ⟨"https://example.org/milling", true⟩ ∧
      (drawnNodes addressedAnswer)[1]? = some ⟨"end mill", false⟩ ∧
      ∃ items, Dot.read? (write addressedAnswer) = some items ∧
        items[0]? = some (.node "n0" [("label", ""), ("color", "#dce4f5"), ("shape", "dot")]) ∧
        items[1]? = some
          (.node "n1" [("label", "end mill"), ("color", "#66789f"), ("shape", "triangle")]) := by
  have answer : (drawnNodes addressedAnswer)[0]? =
      some ⟨"https://example.org/milling", true⟩ := by decide +kernel
  have tool : (drawnNodes addressedAnswer)[1]? = some ⟨"end mill", false⟩ := by decide +kernel
  obtain ⟨_, items, -, read, first, -, -, resource, -⟩ := look_of_drawn addressedAnswer answer
  obtain ⟨_, again, -, reread, second, -, -, -, literal, -⟩ := look_of_drawn addressedAnswer tool
  obtain rfl := Option.some.inj (read.symm.trans reread)
  rw [resource (by decide +kernel)] at first
  rw [literal (by decide) (by decide +kernel)] at second
  exact ⟨answer, tool, items, read, first, second⟩

/-- A gear with a note that speaks of a protocol. -/
def notedGear : List Statement :=
  [⟨[.iri "http://example.org/gear", .iri "http://example.org/note", .literal "sent by http"]⟩]

/-- The note is no http IRI, but is drawn as a dot and without its text. -/
theorem note_drawn_without_text :
    (drawnNodes notedGear)[1]? = some ⟨"sent by http", false⟩ ∧ ¬ IsHttpIri "sent by http" ∧
      Dot.read? (write notedGear) =
        some [.node "n0" [("label", ""), ("color", "#dddddd"), ("shape", "dot")],
          .node "n1" [("label", ""), ("color", "#66789f"), ("shape", "dot")],
          .edge "n0" "n1" [("label", "note"), ("color", "gray")]] := by
  refine ⟨?_, ?_, ?_⟩
  all_goals decide +kernel

end Drawing

end AnswerGraph
