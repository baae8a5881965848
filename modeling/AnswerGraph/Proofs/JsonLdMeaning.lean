import AnswerGraph.Proofs.JsonLdExpansion
import AnswerGraph.Proofs.JsonLdNode
import AnswerGraph.Proofs.JsonText
import AnswerGraph.Proofs.UrlAppend

/-!
What the triples of a graph stand for once they are written as JSON-LD. The document has a node for
every subject, and every triple is found again in the node of its subject, with identifiers that are
expanded as they are written.
-/

namespace AnswerGraph

/-- Reading every member of a list, when all can be read. -/
theorem exists_mapM_some {read : α → Option β} {members : List α}
    (all : ∀ member ∈ members, ∃ value, read member = some value) :
    ∃ values, members.mapM read = some values ∧
      ∀ value, value ∈ values ↔ ∃ member ∈ members, read member = some value := by
  induction members with
  | nil => exact ⟨[], rfl, by simp⟩
  | cons first rest ih =>
    obtain ⟨value, found⟩ := all first List.mem_cons_self
    obtain ⟨values, more, listed⟩ :=
      ih fun member later => all member (List.mem_cons_of_mem _ later)
    refine ⟨value :: values, by simp [List.mapM_cons, found, more], fun other => ?_⟩
    simp [listed, found, eq_comm]

/-- Reading lists from every member, when it is known what they hold. -/
theorem exists_mapM_flatten {read : α → Option (List β)} {holds : α → β → Prop} {members : List α}
    (each : ∀ member ∈ members, ∃ values, read member = some values ∧
      ∀ value, value ∈ values ↔ holds member value) :
    ∃ whole, (members.mapM read).map List.flatten = some whole ∧
      ∀ value, value ∈ whole ↔ ∃ member ∈ members, holds member value := by
  obtain ⟨lists, found, listed⟩ := exists_mapM_some fun member inside =>
    (each member inside).imp fun _ spec => spec.1
  refine ⟨lists.flatten, by rw [found, Option.map_some], fun value => ?_⟩
  rw [List.mem_flatten]
  constructor
  · rintro ⟨values, held, inside⟩
    obtain ⟨member, source, same⟩ := (listed values).mp held
    obtain ⟨values', again, spec⟩ := each member source
    cases again.symm.trans same
    exact ⟨member, source, (spec value).mp inside⟩
  · rintro ⟨member, source, holding⟩
    obtain ⟨values, same, spec⟩ := each member source
    exact ⟨values, (listed values).mpr ⟨member, source, same⟩, (spec value).mpr holding⟩

namespace JsonLd

variable {prefixes : Prefixes}

/-! ## Properties -/

theorem colon_of_absolute {iri : String} (absolute : isAbsoluteIri iri = true) :
    ':' ∈ iri.toList := by
  simp only [isAbsoluteIri, Bool.and_eq_true, Bool.not_eq_true', List.any_eq_false,
    Bool.not_eq_true] at absolute
  obtain ⟨written, accepted⟩ := absolute
  have solid := fun c member => Url.solid_of_allowed (written c member)
  rw [Url.ofText?, Url.clean_of_solid solid] at accepted
  cases cut : Url.cutScheme? iri.toList with
  | none =>
    rw [cut] at accepted
    cases accepted
  | some parts =>
    obtain ⟨_, _, _, _, colon, _⟩ := Url.of_cutScheme? cut
    exact (List.dropWhile_suffix _).mem (colon ▸ List.mem_cons_self)

theorem colon_of_compact (prefixes : Prefixes) {iri : String}
    (absolute : isAbsoluteIri iri = true) : ':' ∈ (prefixes.compact iri).toList := by
  rcases Prefixes.compact_cases prefixes iri with ⟨_, same⟩ | ⟨_, _, _, _, _, _, _, short⟩
  · rw [same]
    exact colon_of_absolute absolute
  · rw [short]
    simp

theorem compact_ne_keyword {iri keyword : String} (absolute : isAbsoluteIri iri = true)
    (plain : ':' ∉ keyword.toList) : prefixes.compact iri ≠ keyword := by
  rintro rfl
  exact plain (colon_of_compact prefixes absolute)

/-- What is written of a triple: its key is not that of the identifier, and its value is an item
from which the triple is read again. -/
structure Written (prefixes : Prefixes) (triple : Triple) : Prop where
  key : (property prefixes triple).1 ≠ "@id"
  item : IsItem (property prefixes triple).2
  canonical : ∀ depth, Json.Canonical (depth + 1) (property prefixes triple).2
  read : tripleOf? prefixes (.iri (expand prefixes triple.subject.text))
    (property prefixes triple).1 (property prefixes triple).2 = some (expanded prefixes triple)

theorem canonical_reference (value : String) (depth : Nat) :
    Json.Canonical (depth + 1) (.object [("@id", .string value)]) := by
  refine .object (List.pairwise_singleton _ _) fun member listed => ?_
  obtain rfl := List.mem_singleton.mp listed
  exact .string

theorem written_of_sound (prefixes : Prefixes) {triple : Triple} (sound : triple.Sound) :
    Written prefixes triple := by
  obtain ⟨subject, predicate, object⟩ := triple
  obtain ⟨_, verb, -, rfl⟩ := sound.exists_iris
  have absolute : isAbsoluteIri verb = true := sound.predicate.2
  have noId : prefixes.compact verb ≠ "@id" := compact_ne_keyword absolute (by decide)
  have noType : prefixes.compact verb ≠ "@type" := compact_ne_keyword absolute (by decide)
  cases object with
  | literal value =>
    refine ⟨noId, fun items => Json.noConfusion, fun depth => .string, ?_⟩
    simp [property, tripleOf?, noType, Term.text, objectOf?, expanded]
  | iri value =>
    by_cases type : verb = Vocabulary.rdfType
    · have shape : property prefixes ⟨subject, .iri verb, .iri value⟩ =
          ("@type", .string (prefixes.compact value)) := by
        simp [property, Term.text, type]
      refine ⟨?_, ?_, ?_, ?_⟩ <;> rw [shape]
      · exact (by decide : "@type" ≠ "@id")
      · exact fun items => Json.noConfusion
      · exact fun depth => .string
      · simp [tripleOf?, expanded, Term.text, type]
    · have shape : property prefixes ⟨subject, .iri verb, .iri value⟩ =
          (prefixes.compact verb, .object [("@id", .string value)]) := by
        simp [property, Term.text, type]
      refine ⟨?_, ?_, ?_, ?_⟩ <;> rw [shape]
      · exact noId
      · exact fun items => Json.noConfusion
      · exact canonical_reference value
      · simp [tripleOf?, noType, objectOf?, expanded, Term.text, type]

theorem canonical_kept {values : List Json}
    (inner : ∀ value ∈ values, ∀ depth, Json.Canonical (depth + 1) value) {value : Json}
    (found : kept values = some value) (depth : Nat) : Json.Canonical (depth + 2) value := by
  match values with
  | [] => cases found
  | [single] =>
    cases found
    exact inner value List.mem_cons_self (depth + 1)
  | first :: second :: rest =>
    cases found
    exact .array fun item member => inner item member depth

/-! ## Nodes -/

/-- The members of a node. -/
def nodeMembers (prefixes : Prefixes) (subject : Term) (own : List Triple) : List (String × Json) :=
  addAll (own.map (property prefixes)) [("@id", .string subject.text)]

theorem node_eq (prefixes : Prefixes) (subject : Term) (own : List Triple) :
    node prefixes subject own = .object (nodeMembers prefixes subject own) := by
  rw [node, nodeMembers, addAll]

theorem sorted_nodeMembers (prefixes : Prefixes) (subject : Term) (own : List Triple) :
    Keyed.Sorted (nodeMembers prefixes subject own) :=
  sorted_addAll (List.pairwise_singleton _ _)

theorem mem_valuesAt {added : List (String × Json)} {key : String} {value : Json} :
    value ∈ valuesAt added key ↔ (key, value) ∈ added := by
  simp [valuesAt]

section Node

variable {subject : Term} {own : List Triple} (sound : ∀ triple ∈ own, triple.Sound)
include sound

/-- A value under a key is written for a triple. -/
theorem exists_written {key : String} {value : Json}
    (listed : value ∈ valuesAt (own.map (property prefixes)) key) :
    ∃ triple ∈ own, property prefixes triple = (key, value) ∧ Written prefixes triple := by
  obtain ⟨triple, member, same⟩ := List.mem_map.mp (mem_valuesAt.mp listed)
  exact ⟨triple, member, same, written_of_sound prefixes (sound triple member)⟩

theorem isItem_of_mem {key : String} {value : Json}
    (listed : value ∈ valuesAt (own.map (property prefixes)) key) : IsItem value := by
  obtain ⟨triple, _, same, written⟩ := exists_written sound listed
  have item := written.item
  rwa [same] at item

theorem lookup_id (subject : Term) :
    (nodeMembers prefixes subject own).lookup "@id" = some (.string subject.text) := by
  have none : valuesAt (own.map (property prefixes)) "@id" = [] := by
    refine List.eq_nil_iff_forall_not_mem.mpr fun value listed => ?_
    obtain ⟨triple, _, same, written⟩ := exists_written sound listed
    exact written.key (congrArg Prod.fst same)
  have added := @lookup_addAll [("@id", .string subject.text)] (own.map (property prefixes)) "@id"
    [.string subject.text]
  rw [none] at added
  exact added (by simp [IsItem]) rfl

theorem lookup_key {key : String} (other : key ≠ "@id") (subject : Term) :
    (nodeMembers prefixes subject own).lookup key =
      kept (valuesAt (own.map (property prefixes)) key) := by
  have start : List.lookup key [("@id", Json.string subject.text)] = kept [] := by
    simp [List.lookup_cons, beq_eq_false_iff_ne.mpr other, kept]
  exact lookup_addAll (fun value listed => isItem_of_mem sound listed) start

/-- A member of a node other than its identifier holds the values under its key. -/
theorem valuesOf_member {member : String × Json}
    (listed : member ∈ nodeMembers prefixes subject own) (other : member.1 ≠ "@id") :
    valuesOf member.2 = valuesAt (own.map (property prefixes)) member.1 := by
  have found := Keyed.lookup_of_mem (sorted_nodeMembers prefixes subject own) listed
  rw [lookup_key sound other] at found
  exact valuesOf_kept (fun value inside => isItem_of_mem sound inside) found

theorem exists_member {triple : Triple} (member : triple ∈ own) (subject : Term) :
    ∃ value, ((property prefixes triple).1, value) ∈ nodeMembers prefixes subject own := by
  have listed : (property prefixes triple).2 ∈
      valuesAt (own.map (property prefixes)) (property prefixes triple).1 :=
    mem_valuesAt.mpr (List.mem_map.mpr ⟨triple, member, rfl⟩)
  have found : (nodeMembers prefixes subject own).lookup (property prefixes triple).1 = _ :=
    lookup_key sound (written_of_sound prefixes (sound triple member)).key subject
  cases values : valuesAt (own.map (property prefixes)) (property prefixes triple).1 with
  | nil =>
    rw [values] at listed
    cases listed
  | cons first rest =>
    obtain ⟨value, held⟩ : ∃ value, kept (first :: rest) = some value := by
      cases rest <;> exact ⟨_, rfl⟩
    rw [values, held] at found
    exact ⟨value, Keyed.mem_of_lookup found⟩

/-- From a member, the triples are read that were written under its key. -/
theorem memberTriples?_member (same : ∀ triple ∈ own, triple.subject = subject)
    {member : String × Json} (listed : member ∈ nodeMembers prefixes subject own) :
    ∃ read, memberTriples? prefixes (.iri (expand prefixes subject.text)) member = some read ∧
      ∀ triple, triple ∈ read ↔ ∃ original ∈ own,
        (property prefixes original).1 = member.1 ∧ expanded prefixes original = triple := by
  by_cases identifier : member.1 = "@id"
  · refine ⟨[], by rw [memberTriples?, if_pos identifier], fun triple => ?_⟩
    simp only [List.not_mem_nil, false_iff, not_exists, not_and]
    intro original inside named
    exact absurd (named.trans identifier) (written_of_sound prefixes (sound original inside)).key
  · have reads {original : Triple} (inside : original ∈ own) :
        tripleOf? prefixes (.iri (expand prefixes subject.text)) (property prefixes original).1
          (property prefixes original).2 = some (expanded prefixes original) :=
      same original inside ▸ (written_of_sound prefixes (sound original inside)).read
    obtain ⟨read, found, spec⟩ := @exists_mapM_some _ _
      (tripleOf? prefixes (.iri (expand prefixes subject.text)) member.1)
      (valuesAt (own.map (property prefixes)) member.1) fun value inside => by
        obtain ⟨original, source, shape, _⟩ := exists_written sound inside
        have read := reads source
        rw [shape] at read
        exact ⟨_, read⟩
    refine ⟨read, ?_, fun triple => ?_⟩
    · rw [memberTriples?, if_neg identifier, valuesOf_member sound listed identifier, found]
    · rw [spec]
      constructor
      · rintro ⟨value, inside, read⟩
        obtain ⟨original, source, shape, _⟩ := exists_written sound inside
        have own := reads source
        rw [shape] at own
        exact ⟨original, source, by rw [shape], Option.some.inj (own.symm.trans read)⟩
      · rintro ⟨original, source, named, rfl⟩
        refine ⟨(property prefixes original).2, mem_valuesAt.mpr ?_, named ▸ reads source⟩
        exact List.mem_map.mpr ⟨original, source, Prod.ext named rfl⟩

/-- From a node, the triples are read that it was made of. -/
theorem nodeTriples?_node (same : ∀ triple ∈ own, triple.subject = subject) :
    ∃ read, nodeTriples? prefixes (node prefixes subject own) = some read ∧
      ∀ triple, triple ∈ read ↔ ∃ original ∈ own, expanded prefixes original = triple := by
  obtain ⟨read, found, spec⟩ := exists_mapM_flatten fun member listed =>
    @memberTriples?_member prefixes subject own sound same member listed
  refine ⟨read, ?_, fun triple => ?_⟩
  · rw [node_eq, nodeTriples?]
    simp only [lookup_id sound, found]
  · rw [spec]
    constructor
    · rintro ⟨member, _, original, source, _, meant⟩
      exact ⟨original, source, meant⟩
    · rintro ⟨original, source, meant⟩
      obtain ⟨value, listed⟩ := exists_member sound source subject
      exact ⟨_, listed, original, source, rfl, meant⟩

theorem canonical_node (subject : Term) (depth : Nat) :
    Json.Canonical (depth + 3) (node prefixes subject own) := by
  rw [node_eq]
  refine .object (sorted_nodeMembers prefixes subject own) fun member listed => ?_
  have found := Keyed.lookup_of_mem (sorted_nodeMembers prefixes subject own) listed
  by_cases identifier : member.1 = "@id"
  · rw [identifier, lookup_id sound] at found
    exact Option.some.inj found ▸ .string
  · rw [lookup_key sound identifier] at found
    refine canonical_kept (fun value inside depth => ?_) found depth
    obtain ⟨triple, _, same, written⟩ := exists_written sound inside
    have canonical := written.canonical depth
    rwa [same] at canonical

end Node

/-! ## Documents -/

/-- The context, sorted by prefix. -/
def contextMembers (prefixes : Prefixes) : List (String × Json) :=
  Json.stringMembers (Keyed.ofList prefixes)

theorem document_eq (prefixes : Prefixes) (triples : List Triple) :
    document prefixes triples = .object [("@context", .object (contextMembers prefixes)),
      ("@graph", .array ((Rdf.bySubject triples).map fun (subject, own) =>
        node prefixes subject own))] := by
  rw [document, Json.ofMembers, Keyed.ofList_map Json.string]
  rfl

theorem context?_members (prefixes : Prefixes) :
    context? (.object (contextMembers prefixes)) = some (Keyed.ofList prefixes) := by
  rw [context?, contextMembers, Json.stringMembers, List.mapM_map]
  induction Keyed.ofList prefixes with
  | nil => rfl
  | cons entry rest ih =>
    rw [List.mapM_cons, ih]
    rfl

/-- Reading a node depends on what texts stand for only. -/
theorem nodeTriples?_congr {first second : List (String × String)}
    (same : expand first = expand second) : nodeTriples? first = nodeTriples? second := by
  have objects : objectOf? first = objectOf? second := by
    funext value
    unfold objectOf?
    rw [same]
  have triples : tripleOf? first = tripleOf? second := by
    funext subject key value
    unfold tripleOf?
    rw [same, objects]
  have members : memberTriples? first = memberTriples? second := by
    funext subject member
    rw [memberTriples?, memberTriples?, triples]
  funext value
  unfold nodeTriples?
  rw [same, members]

section Document

variable {triples : List Triple} (sound : ∀ triple ∈ triples, triple.Sound)
include sound

theorem canonical_document (prefixes : Prefixes) :
    Json.Canonical Document.maxDepth (document prefixes triples) := by
  rw [document_eq]
  have ordered : "@context" < "@graph" := by decide
  refine .object (List.pairwise_pair.mpr ordered) fun member listed => ?_
  simp only [List.mem_cons, List.not_mem_nil, or_false] at listed
  rcases listed with rfl | rfl
  · exact Json.canonical_strings (Keyed.sorted_ofList prefixes) 125
  · refine .array fun item listed => ?_
    obtain ⟨⟨subject, own⟩, inside, rfl⟩ := List.mem_map.mp listed
    exact canonical_node (fun triple member =>
      sound triple ((Rdf.mem_bySubject inside triple).mp member).1) subject 122

/-- From the node of a subject, the triples of the subject are read. -/
theorem nodeTriples?_bySubject {entry : Term × List Triple}
    (inside : entry ∈ Rdf.bySubject triples) :
    ∃ read, nodeTriples? prefixes (node prefixes entry.1 entry.2) = some read ∧
      ∀ triple, triple ∈ read ↔ ∃ original ∈ entry.2, expanded prefixes original = triple :=
  nodeTriples?_node (fun triple member => sound triple ((Rdf.mem_bySubject inside triple).mp member).1)
    fun triple member => ((Rdf.mem_bySubject inside triple).mp member).2

/-- The document stands for its triples, with their identifiers expanded. -/
theorem triples?_document (distinct : (prefixes.map (·.1)).Nodup) :
    ∃ read, triples? (document prefixes triples) = some read ∧
      ∀ triple, triple ∈ read ↔ ∃ original ∈ triples, expanded prefixes original = triple := by
  have same : nodeTriples? (Keyed.ofList prefixes) = nodeTriples? prefixes :=
    nodeTriples?_congr (funext (expand_congr (Keyed.lookup_ofList distinct)))
  have context : (document prefixes triples).member? "@context" =
      some (.object (contextMembers prefixes)) := by
    rw [document_eq]
    rfl
  have graph : (document prefixes triples).member? "@graph" =
      some (.array ((Rdf.bySubject triples).map fun (subject, own) =>
        node prefixes subject own)) := by
    rw [document_eq]
    rfl
  obtain ⟨read, found, spec⟩ := exists_mapM_flatten fun _ inside =>
    @nodeTriples?_bySubject prefixes triples sound _ inside
  refine ⟨read, ?_, fun triple => ?_⟩
  · simp only [triples?, context, graph, context?_members, Option.bind_eq_bind, Option.bind_some,
      same, List.mapM_map]
    exact found
  · rw [spec]
    constructor
    · rintro ⟨⟨subject, own⟩, inside, original, source, meant⟩
      exact ⟨original, ((Rdf.mem_bySubject inside original).mp source).1, meant⟩
    · rintro ⟨original, source, meant⟩
      obtain ⟨own, inside⟩ := Rdf.exists_bySubject source
      exact ⟨_, inside, original, (Rdf.mem_bySubject inside original).mpr ⟨source, rfl⟩, meant⟩

end Document

/-! ## Written graphs -/

variable {namespaces : Namespaces} {statements : List Statement} {found : List Triple}

theorem write_eq (accepted : Rdf.triples statements = .ok found) (pretty : Bool) :
    Rdf.write namespaces .jsonLd pretty statements =
      .ok ((document (Prefixes.ofNamespaces namespaces) found).render pretty) := by
  rw [Rdf.write, accepted]

/-- A graph is written as JSON-LD, and what is read from the text are its triples with their
identifiers expanded as they are written. So nothing is lost if every triple keeps its meaning; with
prefixes without colons it does if no IRI in full starts with the name of another root, and no
shortened one looks like one in full. -/
theorem expanded_of_written (accepted : Rdf.triples statements = .ok found) (pretty : Bool) :
    let prefixes := Prefixes.ofNamespaces namespaces
    ∃ text value read, Rdf.write namespaces .jsonLd pretty statements = .ok text ∧
      Json.parse? text = some value ∧ triples? value = some read ∧
      (∀ triple, triple ∈ read ↔ ∃ original ∈ found, expanded prefixes original = triple) ∧
      ((∀ original ∈ found, expanded prefixes original = original) →
        ∀ triple, triple ∈ read ↔ triple ∈ found) ∧
      ((∀ entry ∈ namespaces.entries, ':' ∉ entry.1.toList) → ∀ original ∈ found,
        (expanded prefixes original = original ↔ Keeps prefixes original)) := by
  intro prefixes
  have sound := (Rdf.triples_eq_ok accepted).2
  have distinct := Prefixes.distinct_ofNamespaces namespaces
  obtain ⟨read, meant, spec⟩ := triples?_document sound distinct
  refine ⟨_, _, read, write_eq accepted pretty,
    Json.parse?_render (canonical_document sound prefixes) pretty, meant, spec,
    fun kept triple => ?_, fun solid original member => ?_⟩
  · rw [spec]
    constructor
    · rintro ⟨original, member, rfl⟩
      rwa [kept original member]
    · exact fun member => ⟨triple, member, kept triple member⟩
  · refine expanded_eq_iff distinct (fun entry listed => ?_) (sound original member)
    rcases Prefixes.mem_ofNamespaces listed with standard | declared
    · exact (by decide : ∀ entry ∈ Prefixes.standard, ':' ∉ entry.1.toList) entry standard
    · exact solid entry declared

/-- A part with a label, both in a scheme of their own. -/
def labelledPart : Triple :=
  ⟨.iri "urn:part", .iri "urn:label", .literal "gear"⟩

theorem accepted_labelledPart : Rdf.triples [labelledPart.statement] = .ok [labelledPart] := by
  rfl

/-- With a prefix for that scheme, the part is read as it was. -/
theorem expanded_of_written_part :
    Rdf.triples [labelledPart.statement] = .ok [labelledPart] ∧
      ∃ text value read,
        Rdf.write ⟨[("ex", "urn:")]⟩ .jsonLd false [labelledPart.statement] = .ok text ∧
        Json.parse? text = some value ∧ triples? value = some read ∧
        ∀ triple, triple ∈ read ↔ triple ∈ [labelledPart] := by
  obtain ⟨text, value, read, written, parsed, meant, _, whole, _⟩ :=
    @expanded_of_written ⟨[("ex", "urn:")]⟩ _ _ accepted_labelledPart false
  refine ⟨accepted_labelledPart, text, value, read, written, parsed, meant, whole ?_⟩
  intro original member
  obtain rfl := List.mem_singleton.mp member
  decide +kernel

/-- With a prefix that is called like the scheme, the part is read as another. -/
theorem part_renamed_by_prefix :
    Rdf.triples [labelledPart.statement] = .ok [labelledPart] ∧
      ∃ text value,
        Rdf.write ⟨[("urn", "http://example.org/")]⟩ .jsonLd false [labelledPart.statement] =
          .ok text ∧
        Json.parse? text = some value ∧
        triples? value = some [⟨.iri "http://example.org/part", .iri "http://example.org/label",
          .literal "gear"⟩] := by
  have sound := (Rdf.triples_eq_ok accepted_labelledPart).2
  refine ⟨accepted_labelledPart, _, _, write_eq accepted_labelledPart false,
    Json.parse?_render (canonical_document sound _) false, ?_⟩
  decide +kernel

end JsonLd

end AnswerGraph
