import AnswerGraph.Proofs.JsonLdMeaning
import Mathlib.Data.List.Forall2
import Mathlib.Data.List.Induction

/-!
The nodes of a JSON-LD document. They can be collected in one pass: every triple goes to the node of
its subject, and a subject that is met for the first time opens a node at the end. So there is one
node for each subject, and under every key it has the items of the triples that map to the key.
-/

namespace AnswerGraph.JsonLd

/-! ## One pass -/

/-- Adds what is written of a triple to the members of a node. -/
def addTriple (prefixes : Prefixes) (members : List (String × Json)) (triple : Triple) :
    List (String × Json) :=
  addProperty members (property prefixes triple).1 (property prefixes triple).2

/-- Puts a triple into the node of its subject, or into a new one at the end. -/
def place (prefixes : Prefixes) (triple : Triple) :
    List (Term × List (String × Json)) → List (Term × List (String × Json))
  | [] => [(triple.subject,
      addTriple prefixes [("@id", .string triple.subject.text)] triple)]
  | (subject, members) :: rest =>
    if subject = triple.subject then (subject, addTriple prefixes members triple) :: rest
    else (subject, members) :: place prefixes triple rest

def collect (prefixes : Prefixes) (triples : List Triple) : List (Term × List (String × Json)) :=
  triples.foldl (fun nodes triple => place prefixes triple nodes) []

variable {prefixes : Prefixes} {triple : Triple}

theorem place_of_new {subjects : List Term} (absent : triple.subject ∉ subjects)
    (members : Term → List (String × Json)) :
    place prefixes triple (subjects.map fun subject => (subject, members subject)) =
      subjects.map (fun subject => (subject, members subject)) ++
        [(triple.subject, addTriple prefixes [("@id", .string triple.subject.text)] triple)] := by
  induction subjects with
  | nil => rfl
  | cons first rest ih =>
    have other : first ≠ triple.subject := fun same => absent (same ▸ List.mem_cons_self)
    have later : triple.subject ∉ rest := fun member => absent (List.mem_cons_of_mem first member)
    rw [List.map_cons, place, if_neg other, ih later, List.cons_append]

/-- A subject that has a node is left in its place, and no other node is changed. -/
theorem place_of_mem {subjects : List Term} (distinct : subjects.Nodup)
    (known : triple.subject ∈ subjects) (members : Term → List (String × Json)) :
    place prefixes triple (subjects.map fun subject => (subject, members subject)) =
      subjects.map fun subject => (subject,
        if subject = triple.subject then addTriple prefixes (members subject) triple
        else members subject) := by
  induction subjects with
  | nil => cases known
  | cons first rest ih =>
    obtain ⟨fresh, distinct⟩ := List.nodup_cons.mp distinct
    rw [List.map_cons, List.map_cons, place]
    by_cases same : first = triple.subject
    · rw [if_pos same, if_pos same]
      congr 1
      apply List.map_congr_left
      intro subject later
      have other : subject ≠ triple.subject := fun again => fresh (same.trans again.symm ▸ later)
      rw [if_neg other]
    · have later : triple.subject ∈ rest := (List.mem_cons.mp known).resolve_left (Ne.symm same)
      rw [if_neg same, if_neg same, ih distinct later]

/-- The members of the node of a subject, from all triples. -/
def membersOf (prefixes : Prefixes) (triples : List Triple) (subject : Term) :
    List (String × Json) :=
  nodeMembers prefixes subject (triples.filter (·.subject == subject))

theorem membersOf_concat (triples : List Triple) (subject : Term) :
    membersOf prefixes (triples ++ [triple]) subject =
      if subject = triple.subject then
        addTriple prefixes (membersOf prefixes triples subject) triple
      else membersOf prefixes triples subject := by
  rw [membersOf, membersOf, List.filter_append]
  by_cases same : subject = triple.subject
  · have own : [triple].filter (·.subject == subject) = [triple] := by simp [same]
    rw [if_pos same, own, nodeMembers, nodeMembers, addAll, addAll, List.map_append,
      List.foldl_append]
    rfl
  · have others : [triple].filter (·.subject == subject) = [] := by simp [Ne.symm same]
    rw [if_neg same, others, List.append_nil]

/-- A subject without triples has nothing but its identifier. -/
theorem membersOf_of_new {triples : List Triple} {subject : Term}
    (absent : subject ∉ triples.map Triple.subject) :
    membersOf prefixes triples subject = [("@id", .string subject.text)] := by
  have none : triples.filter (·.subject == subject) = [] := by
    rw [List.filter_eq_nil_iff]
    intro triple member same
    exact absent (List.mem_map.mpr ⟨triple, member, eq_of_beq same⟩)
  rw [membersOf, none]
  rfl

/-- The nodes of all subjects, in the order in which the subjects are met. -/
def nodesOf (prefixes : Prefixes) (triples : List Triple) : List (Term × List (String × Json)) :=
  (firsts (triples.map Triple.subject)).map fun subject =>
    (subject, membersOf prefixes triples subject)

/-- A triple that is placed among the nodes of those before it. -/
theorem place_nodesOf (triples : List Triple) :
    place prefixes triple (nodesOf prefixes triples) = nodesOf prefixes (triples ++ [triple]) := by
  rw [nodesOf, nodesOf, List.map_append, List.map_singleton]
  by_cases known : triple.subject ∈ triples.map Triple.subject
  · rw [firsts_concat_of_mem known, place_of_mem (nodup_firsts _) ((mem_firsts _ _).mpr known)]
    simp only [membersOf_concat]
  · have absent : triple.subject ∉ firsts (triples.map Triple.subject) := by
      rwa [mem_firsts]
    have opened : membersOf prefixes (triples ++ [triple]) triple.subject =
        addTriple prefixes [("@id", .string triple.subject.text)] triple := by
      rw [membersOf_concat, if_pos rfl, membersOf_of_new known]
    rw [firsts_concat_of_not_mem known, place_of_new absent, List.map_append, List.map_singleton,
      opened]
    congr 1
    apply List.map_congr_left
    intro subject member
    have other : subject ≠ triple.subject := fun same => absent (same ▸ member)
    rw [membersOf_concat, if_neg other]

/-- One pass over the triples collects the nodes of all subjects. -/
theorem collect_eq (prefixes : Prefixes) (triples : List Triple) :
    collect prefixes triples = nodesOf prefixes triples := by
  induction triples using List.reverseRecOn with
  | nil => rfl
  | append_singleton triples triple ih =>
    rw [collect, List.foldl_append, ← collect, ih]
    exact place_nodesOf triples

/-! ## Keys and items -/

/-- The key under which a triple is written. -/
def keyOf (prefixes : Prefixes) (triple : Triple) : String :=
  if triple.predicate = .iri Vocabulary.rdfType ∧ triple.object.isIri then "@type"
  else prefixes.compact triple.predicate.text

/-- The item that is written of a triple under its key. -/
def itemOf (prefixes : Prefixes) (triple : Triple) : Json :=
  match triple.object with
  | .literal value => .string value
  | .iri value =>
    if triple.predicate = .iri Vocabulary.rdfType then .string (prefixes.compact value)
    else .object [("@id", .string value)]

theorem property_eq (prefixes : Prefixes) (sound : triple.Sound) :
    property prefixes triple = (keyOf prefixes triple, itemOf prefixes triple) := by
  obtain ⟨subject, predicate, object⟩ := triple
  obtain ⟨_, verb, -, rfl⟩ := sound.exists_iris
  cases object with
  | literal value => simp [property, keyOf, itemOf, Term.isIri]
  | iri value =>
    by_cases type : verb = Vocabulary.rdfType <;>
      simp [property, keyOf, itemOf, Term.isIri, Term.text, type]

/-- What is written under a key are the items of the triples that map to it. -/
theorem valuesAt_property {own : List Triple} (sound : ∀ triple ∈ own, triple.Sound)
    (key : String) :
    valuesAt (own.map (property prefixes)) key =
      (own.filter (keyOf prefixes · = key)).map (itemOf prefixes) := by
  have named : own.map (property prefixes) =
      own.map fun triple => (keyOf prefixes triple, itemOf prefixes triple) := by
    apply List.map_congr_left
    intro triple member
    exact property_eq prefixes (sound triple member)
  rw [valuesAt, named, List.filter_map, List.map_map]
  rfl

theorem absolute_predicate (sound : triple.Sound) :
    isAbsoluteIri triple.predicate.text = true := by
  obtain ⟨subject, predicate, object⟩ := triple
  obtain ⟨_, verb, -, rfl⟩ := sound.exists_iris
  exact sound.predicate.2

/-- No predicate is shortened to the key of types, so only types have it. -/
theorem keyOf_eq_type_iff (prefixes : Prefixes) (sound : triple.Sound) :
    keyOf prefixes triple = "@type" ↔
      triple.predicate = .iri Vocabulary.rdfType ∧ triple.object.isIri := by
  rw [keyOf]
  split
  · next type => exact iff_of_true rfl type
  · next other =>
    exact iff_of_false (compact_ne_keyword (absolute_predicate sound) (by decide)) other

/-! ## Nodes -/

/-- What the node of a subject holds: the full identifier of the subject, and under every other key
the items of the triples of the subject that map to the key, in the order of the triples. -/
structure Groups (prefixes : Prefixes) (triples : List Triple) (subject : Term) (node : Json) :
    Prop where
  shape : ∃ members, node = .object members ∧ (members.map (·.1)).Nodup
  id : node.member? "@id" = some (.string subject.text)
  values : ∀ key, key ≠ "@id" → node.member? key =
    kept ((triples.filter fun triple => triple.subject = subject ∧ keyOf prefixes triple = key).map
      (itemOf prefixes))

theorem groups_membersOf {triples : List Triple} (sound : ∀ triple ∈ triples, triple.Sound)
    (subject : Term) :
    Groups prefixes triples subject (.object (membersOf prefixes triples subject)) := by
  have own : ∀ triple ∈ triples.filter (·.subject == subject), triple.Sound :=
    fun triple member => sound triple (List.mem_filter.mp member).1
  refine ⟨⟨_, rfl, Keyed.distinct_of_sorted (sorted_nodeMembers prefixes subject _)⟩,
    lookup_id own subject, fun key other => ?_⟩
  have both : (triples.filter (·.subject == subject)).filter (keyOf prefixes · = key) =
      triples.filter fun triple => triple.subject = subject ∧ keyOf prefixes triple = key := by
    rw [List.filter_filter]
    apply List.filter_congr
    intro triple _
    by_cases same : triple.subject = subject <;> simp [same]
  rw [← both, ← valuesAt_property own]
  exact lookup_key own other subject

/-- The graph of a document has one node for each subject. -/
theorem member?_graph (prefixes : Prefixes) (triples : List Triple) :
    (document prefixes triples).member? "@graph" =
      some (.array ((firsts (triples.map Triple.subject)).map fun subject =>
        .object (membersOf prefixes triples subject))) := by
  rw [document_eq]
  simp only [node_eq, Rdf.bySubject, List.map_map]
  rfl

variable {namespaces : Namespaces} {statements : List Statement} {found : List Triple}

/-- Accepted statements are written as JSON-LD, whatever prefixes are declared. The graph of the
document has one node for each subject, in the order in which the subjects are met, as if every
triple were put into the node of its subject in one pass. In the node, the subject is named in
full, and under every other key are the items of all its triples that map to the key, a single one
alone and several in an array. A triple maps to the key of types if it names a type by an IRI, and
to its shortened predicate otherwise, which is never a keyword. -/
theorem groups_of_written (accepted : Rdf.triples statements = .ok found) (pretty : Bool) :
    let prefixes := Prefixes.ofNamespaces namespaces
    ∃ text value nodes,
      found.map Triple.statement = firsts statements ∧
      Rdf.write namespaces .jsonLd pretty statements = .ok text ∧
      Json.parse? text = some value ∧
      value.member? "@graph" = some (.array nodes) ∧
      nodes = (collect prefixes found).map (fun (_, members) => .object members) ∧
      List.Forall₂ (Groups prefixes found) (firsts (statements.filterMap Statement.subject?))
        nodes ∧
      ∀ triple ∈ found, prefixes.compact triple.predicate.text ≠ "@id" ∧
        prefixes.compact triple.predicate.text ≠ "@type" ∧
        (keyOf prefixes triple = "@type" ↔
          triple.predicate = .iri Vocabulary.rdfType ∧ triple.object.isIri) := by
  intro prefixes
  obtain ⟨same, sound⟩ := Rdf.triples_eq_ok accepted
  let nodes : List Json := (firsts (found.map Triple.subject)).map fun subject =>
    .object (membersOf prefixes found subject)
  have passed : nodes = (collect prefixes found).map fun (_, members) => .object members := by
    rw [collect_eq, nodesOf, List.map_map]
    rfl
  have grouped : List.Forall₂ (Groups prefixes found)
      (firsts (statements.filterMap Statement.subject?)) nodes := by
    rw [← Rdf.subjects_of_accepted accepted, List.forall₂_map_right_iff, List.forall₂_same]
    exact fun subject _ => groups_membersOf sound subject
  refine ⟨_, _, nodes, same, write_eq accepted pretty,
    Json.parse?_render (canonical_document sound prefixes) pretty, member?_graph prefixes found,
    passed, grouped, ?_⟩
  intro triple member
  have absolute := absolute_predicate (sound triple member)
  exact ⟨compact_ne_keyword absolute (by decide), compact_ne_keyword absolute (by decide),
    keyOf_eq_type_iff prefixes (sound triple member)⟩

/-- Triples of two subjects in turn. One predicate is the other one in full, and a type is named by
an IRI, then by a literal, then by an IRI again. -/
def interleaved : List Triple := [
  ⟨.iri "urn:gear", .iri Vocabulary.rdfType, .iri "urn:Part"⟩,
  ⟨.iri "urn:axle", .iri "urn:label", .literal "axle"⟩,
  ⟨.iri "urn:gear", .iri Vocabulary.rdfType, .literal "part"⟩,
  ⟨.iri "urn:axle", .iri "ex:label", .iri "urn:name"⟩,
  ⟨.iri "urn:gear", .iri Vocabulary.rdfType, .iri "urn:Wheel"⟩]

/-- The two predicates share a key, and a type by a literal is no type of the node. -/
theorem groups_of_written_interleaved :
    let statements := (interleaved ++ interleaved).map Triple.statement
    Rdf.triples statements = .ok interleaved ∧
      ∃ text value, Rdf.write ⟨[("ex", "urn:")]⟩ .jsonLd false statements = .ok text ∧
        Json.parse? text = some value ∧
        value.member? "@graph" = some (.array [
          .object [("@id", .string "urn:gear"),
            ("@type", .array [.string "ex:Part", .string "ex:Wheel"]),
            ("rdf:type", .string "part")],
          .object [("@id", .string "urn:axle"),
            ("ex:label", .array [.string "axle", .object [("@id", .string "urn:name")]])]]) := by
  intro statements
  have accepted : Rdf.triples statements = .ok interleaved := by decide +kernel
  obtain ⟨text, value, nodes, _, written, parsed, graph, passed, _⟩ :=
    @groups_of_written ⟨[("ex", "urn:")]⟩ statements interleaved accepted false
  refine ⟨accepted, text, value, written, parsed, graph.trans ?_⟩
  rw [passed]
  rfl

end AnswerGraph.JsonLd
