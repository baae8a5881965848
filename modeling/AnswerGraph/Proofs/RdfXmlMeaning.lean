import AnswerGraph.Proofs.RdfXmlReader
import AnswerGraph.Proofs.RdfXmlTree

/-!
What is read from a written RDF/XML document. The triples are grouped by subject as they were
written. They are lost if XML has no element for one of their predicates or not all of their
characters, or if RDF/XML keeps the predicate for itself; ends of lines and the items of lists are
read as something else.
-/

namespace AnswerGraph

namespace RdfXml

/-! ## Sound triples -/

/-- A predicate is cut into two parts, and the second one has the characters of names. -/
theorem parts_of_splitName? {iri space name : List Char}
    (split : splitName? iri = some (space, name)) :
    space ++ name = iri ∧ ∀ c ∈ name, (isNameStart c || isNameChar c) = true := by
  have whole := List.take_append_drop (iri.length - (Text.afterLast isCut iri).length) iri
  rw [← List.suffix_iff_eq_drop.mp (Text.suffix_afterLast isCut iri)] at whole
  unfold splitName? at split
  generalize Text.afterLast isCut iri = last at split whole
  split at split
  · cases split
  cases last with
  | nil => cases split
  | cons first rest =>
    cases legal : isNameStart first && rest.all isNameChar with
    | false => simp [legal] at split
    | true =>
      simp only [legal, if_true] at split
      cases split
      refine ⟨whole, fun c member => ?_⟩
      obtain ⟨starts, more⟩ := Bool.and_eq_true_iff.mp legal
      rcases List.mem_cons.mp member with rfl | later
      · rw [starts, Bool.true_or]
      · rw [List.all_eq_true.mp more c later, Bool.or_true]

theorem solid_of_sound {term : Term} (iri : term.isIri = true) (sound : term.isSound = true) :
    Xml.Solid term.text.toList := by
  cases term with
  | literal value => cases iri
  | iri value =>
    intro c member
    have allowed := isForbiddenInIri_eq_false sound c member
    cases space : Xml.isSpace c with
    | false => rfl
    | true =>
      have forbidden : ∀ c ∈ [' ', '\t', '\n', '\r'], isForbiddenInIri c = true :=
        Text.forall_of_all (by decide)
      rw [forbidden c (by simpa [Xml.isSpace, or_assoc] using space)] at allowed
      cases allowed

section Parts

variable {triple : Triple} (sound : triple.Sound) (split : named triple = true)
include split

/-- The two parts of a predicate make up the whole. -/
theorem predicate_eq : (Property.of triple).space ++ (Property.of triple).name =
    triple.predicate.text.toList :=
  (parts_of_splitName? (splitName?_of_named split)).1

include sound

theorem sound_property : (Property.of triple).Sound := by
  have whole := solid_of_sound sound.predicate.1 sound.predicate.2
  obtain ⟨parts, named⟩ := parts_of_splitName? (splitName?_of_named split)
  constructor
  · intro c member
    exact whole c (parts ▸ List.mem_append_left _ member)
  · intro c member
    have own := named c member
    have others : ∀ c ∈ ['>', '/', ':'], (isNameStart c || isNameChar c) = false :=
      Text.forall_of_all (by decide +kernel)
    have apart {other : Char} (listed : other ∈ ['>', '/', ':']) : c ≠ other := by
      rintro rfl
      rw [others c listed] at own
      cases own
    exact ⟨whole c (parts ▸ List.mem_append_right _ member), apart (by decide), apart (by decide),
      apart (by decide)⟩
  · intro value object
    have iri := sound.object
    rw [show triple.object = .iri value from object] at iri
    exact @solid_of_sound (.iri value) rfl iri

end Parts

theorem sound_description {triples : List Triple} (sound : ∀ triple ∈ triples, triple.Sound)
    (split : ∀ triple ∈ triples, named triple = true) :
    ∀ description ∈ (Rdf.bySubject triples).map Description.of, description.Sound := by
  intro description member
  obtain ⟨⟨subject, own⟩, listed, rfl⟩ := List.mem_map.mp member
  constructor
  · obtain ⟨triple, inside, rfl⟩ := Rdf.exists_of_bySubject listed
    have source := ((Rdf.mem_bySubject listed triple).mp inside).1
    exact solid_of_sound (sound triple source).subject.1 (sound triple source).subject.2
  · intro property inside
    obtain ⟨triple, own, rfl⟩ := List.mem_map.mp inside
    have source := ((Rdf.mem_bySubject listed triple).mp own).1
    exact sound_property (sound triple source) (split triple source)

/-! ## Reading the tree -/

/-- Items of a list are read as the properties of their numbers. -/
def numberItems : Nat → List (String × Term) → List (String × Term)
  | _, [] => []
  | number, (predicate, object) :: rest =>
    if predicate = listItem then (numbered number, object) :: numberItems (number + 1) rest
    else (predicate, object) :: numberItems number rest

theorem iriOf_ownName (part : String) : iriOf (ownName part) = rdfIri part := by
  rw [iriOf, ownName, rdfIri, String.ofList_append, String.ofList_toList, String.ofList_toList]

namespace Property

def predicate (property : Property) : String :=
  String.ofList (property.space ++ property.name)

/-- Whether the element of a property is one to RDF/XML. -/
def isFree (property : Property) : Bool :=
  !syntaxTerms.contains property.predicate

theorem object?_textNodes (value : String) :
    object? [] (Xml.textNodes value.toList) = some (.literal value) := by
  by_cases empty : value.toList = []
  · rw [Xml.textNodes, if_pos empty]
    exact congrArg (fun text => some (Term.literal text)) (String.toList_injective empty.symm)
  · rw [Xml.textNodes, if_neg empty]
    exact congrArg (fun text => some (Term.literal text)) String.ofList_toList

/-- A property is read before those behind it. -/
theorem properties?_node (property : Property) (number : Nat) (rest : List Xml.Node) :
    properties? number (property.node :: rest) =
      if property.isFree then
        if property.predicate = listItem then
          (properties? (number + 1) rest).map ((numbered number, property.object) :: ·)
        else (properties? number rest).map ((property.predicate, property.object) :: ·)
      else none := by
  obtain ⟨space, name, object⟩ := property
  have own : iriOf ⟨space, name⟩ = predicate ⟨space, name, object⟩ := rfl
  have resource := iriOf_ownName "resource"
  by_cases listed : predicate ⟨space, name, object⟩ ∈ syntaxTerms
  · cases object with
    | iri value => simp [node, properties?, isFree, own, listed]
    | literal value => simp [node, properties?, isFree, own, listed]
  · cases object with
    | iri value => simp [node, properties?, isFree, own, listed, object?, resource]
    | literal value => simp [node, properties?, isFree, own, listed, object?_textNodes]

theorem properties?_nodes (number : Nat) (properties : List Property) :
    properties? number (properties.map node) =
      if properties.all isFree then
        some (numberItems number
          (properties.map fun property => (property.predicate, property.object)))
      else none := by
  induction properties generalizing number with
  | nil => rfl
  | cons property rest ih =>
    rw [List.map_cons, properties?_node, ih, ih, List.map_cons, numberItems, List.all_cons]
    by_cases item : property.predicate = listItem
    · cases property.isFree <;> cases rest.all isFree <;> simp [item]
    · cases property.isFree <;> cases rest.all isFree <;> simp [item]

end Property

theorem isBlank_indent (depth : Nat) : (Xml.Node.text (indent depth)).isBlank = true := by
  have newLine : Xml.isSpace '\n' = true := by decide
  have space : Xml.isSpace ' ' = true := by decide
  simp [Xml.Node.isBlank, indent, newLine, space]

/-- The lines between elements do not count. -/
theorem solid_lines {node : α → Xml.Node} (filled : ∀ item, (node item).isBlank = false)
    (items : List α) (depth last : Nat) :
    solid (items.flatMap (fun item => [.text (indent depth), node item]) ++ [.text (indent last)]) =
      items.map node := by
  induction items with
  | nil => simp [solid, isBlank_indent]
  | cons item rest ih =>
    rw [solid] at ih
    simp [solid, isBlank_indent, filled, ih]

theorem mapM_ite {read : α → Option β} {readable : α → Bool} {value : α → β}
    (reads : ∀ item, read item = if readable item then some (value item) else none)
    (items : List α) :
    items.mapM read = if items.all readable then some (items.map value) else none := by
  induction items with
  | nil => rfl
  | cons item rest ih =>
    rw [List.mapM_cons, ih, reads, List.all_cons]
    cases readable item <;> cases rest.all readable <;> rfl

namespace Description

def isFree (description : Description) : Bool :=
  description.properties.all Property.isFree

/-- What is said of a subject. -/
def meaning (description : Description) : Described :=
  (String.ofList description.subject, numberItems 1
    (description.properties.map fun property => (property.predicate, property.object)))

theorem described?_node (description : Description) :
    described? description.node =
      if description.isFree then some description.meaning else none := by
  have filled (property : Property) : property.node.isBlank = false := by
    unfold Property.node
    cases property.object <;> rfl
  rw [node, described?, if_pos ⟨iriOf_ownName _, iriOf_ownName _⟩, solid_lines filled,
    Property.properties?_nodes]
  cases free : description.properties.all Property.isFree <;> simp [isFree, meaning, free]

end Description

theorem ofNode?_documentNode (descriptions : List Description) :
    ofNode? (documentNode descriptions) =
      if descriptions.all Description.isFree then some (descriptions.map Description.meaning)
      else none := by
  have filled (description : Description) : description.node.isBlank = false := rfl
  have each := mapM_ite Description.described?_node descriptions
  rw [documentNode, ofNode?, if_pos (iriOf_ownName _), solid_lines filled, List.mapM_map,
    Function.comp_def, each]

def Description.isReadable (description : Description) : Bool :=
  description.hasLegalChars && description.isElement && description.isFree

/-- A document is read as what its descriptions say, up to the ends of lines. -/
theorem read?_documentText {descriptions : List Description}
    (sound : ∀ description ∈ descriptions, description.Sound) :
    read? (documentText descriptions) =
      if descriptions.all Description.isReadable then
        some (descriptions.map fun description => description.plain.meaning)
      else none := by
  have free : (descriptions.map Description.plain).all Description.isFree =
      descriptions.all Description.isFree := by
    simp only [List.all_map, Function.comp_def, Description.isFree, Description.plain]
    rfl
  have readable : descriptions.all Description.isReadable =
      (descriptions.all Description.hasLegalChars && descriptions.all Description.isElement &&
        descriptions.all Description.isFree) := by
    rw [Bool.eq_iff_iff]
    simp only [Bool.and_eq_true, List.all_eq_true, Description.isReadable, forall_and]
  rw [read?, tree_documentText sound, readable]
  cases descriptions.all Description.hasLegalChars && descriptions.all Description.isElement with
  | false => rfl
  | true =>
    simp only [if_true, Option.bind_some, ofNode?_documentNode, free, List.map_map, Bool.true_and]
    rfl

/-! ## Triples -/

def LegalChars (triple : Triple) : Prop :=
  ∀ term ∈ [triple.subject, triple.predicate, triple.object],
    ∀ c ∈ term.text.toList, Xml.isChar c = true

/-- What makes a triple readable: its characters are legal, its predicate ends in a name behind a
namespace that may be declared, and is no term for writing graphs. -/
structure Readable (triple : Triple) : Prop where
  chars : LegalChars triple
  name : Xml.isName (Property.of triple).name = true
  space : Xml.mayDeclare [] (Property.of triple).space = true
  predicate : triple.predicate.text ∉ syntaxTerms

/-- What makes a triple read as it is: in addition, it is no item of a list, and its lines end in
line feeds only. -/
structure Lossless (triple : Triple) : Prop extends Readable triple where
  item : triple.predicate.text ≠ listItem
  lines : ∀ value, triple.object = .literal value → '\r' ∉ value.toList

/-- A subject with its triples as they are, and as they are read. -/
def asWritten (group : Term × List Triple) : Described :=
  (group.1.text, group.2.map fun triple => (triple.predicate.text, triple.object))

def asRead (group : Term × List Triple) : Described :=
  (group.1.text, numberItems 1
    (group.2.map fun triple => (triple.predicate.text, triple.object.plain)))

section Written

variable {triples : List Triple} (split : ∀ triple ∈ triples, named triple = true)
include split

theorem predicate_of {triple : Triple} (member : triple ∈ triples) :
    (Property.of triple).predicate = triple.predicate.text := by
  rw [Property.predicate, predicate_eq (split triple member), String.ofList_toList]

theorem meaning_of {group : Term × List Triple} (listed : group ∈ Rdf.bySubject triples) :
    (Description.of group).plain.meaning = asRead group := by
  obtain ⟨subject, own⟩ := group
  have same : (((Description.of (subject, own)).plain).properties.map fun property =>
      (property.predicate, property.object)) =
      own.map fun triple => (triple.predicate.text, triple.object.plain) := by
    rw [Description.plain, Description.of, List.map_map, List.map_map]
    apply List.map_congr_left
    intro triple member
    have source := ((Rdf.mem_bySubject listed triple).mp member).1
    exact congrArg (·, triple.object.plain) (predicate_of split source)
  rw [Description.meaning, same, asRead]
  exact congrArg (·, _) String.ofList_toList

omit split in
/-- What is asked of descriptions by their triples is asked of all triples. -/
theorem all_descriptions_iff {check : Description → Bool} {P : Triple → Prop}
    (own : ∀ group ∈ Rdf.bySubject triples,
      check (Description.of group) = true ↔ ∀ triple ∈ group.2, P triple) :
    ((Rdf.bySubject triples).map Description.of).all check = true ↔
      ∀ triple ∈ triples, P triple := by
  rw [List.all_map, List.all_eq_true, ← Rdf.forall_bySubject_iff]
  exact forall₂_congr own

theorem legalChars_of {group : Term × List Triple} (listed : group ∈ Rdf.bySubject triples) :
    (Description.of group).hasLegalChars = true ↔ ∀ triple ∈ group.2, LegalChars triple := by
  obtain ⟨subject, own⟩ := group
  have cut {triple : Triple} (member : triple ∈ own) : (Property.of triple).hasLegalChars = true ↔
      (∀ c ∈ triple.predicate.text.toList, Xml.isChar c = true) ∧
        ∀ c ∈ triple.object.text.toList, Xml.isChar c = true := by
    have source := ((Rdf.mem_bySubject listed triple).mp member).1
    rw [← predicate_eq (split triple source), Property.hasLegalChars, ← List.all_append,
      Bool.and_eq_true, List.all_eq_true, List.all_eq_true]
    rfl
  have subjects {triple : Triple} (member : triple ∈ own) : triple.subject = subject :=
    ((Rdf.mem_bySubject listed triple).mp member).2
  simp only [Description.hasLegalChars, Description.of, List.all_map, Bool.and_eq_true,
    List.all_eq_true, Function.comp_apply]
  constructor
  · rintro ⟨front, all⟩ triple member term inside
    obtain ⟨predicate, object⟩ := (cut member).mp (all triple member)
    simp only [List.mem_cons, List.not_mem_nil, or_false] at inside
    rcases inside with rfl | rfl | rfl
    · rw [subjects member]
      exact front
    · exact predicate
    · exact object
  · intro all
    constructor
    · obtain ⟨triple, member, rfl⟩ := Rdf.exists_of_bySubject listed
      exact all triple member triple.subject (by simp)
    · intro triple member
      exact (cut member).mpr
        ⟨all triple member triple.predicate (by simp), all triple member triple.object (by simp)⟩

theorem readable_of {group : Term × List Triple} (listed : group ∈ Rdf.bySubject triples) :
    (Description.of group).isReadable = true ↔ ∀ triple ∈ group.2, Readable triple := by
  have free {triple : Triple} (member : triple ∈ group.2) :
      (Property.of triple).isFree = true ↔ triple.predicate.text ∉ syntaxTerms := by
    have source := ((Rdf.mem_bySubject listed triple).mp member).1
    rw [Property.isFree, predicate_of split source]
    simp
  rw [Description.isReadable, Bool.and_eq_true, Bool.and_eq_true, legalChars_of split listed]
  simp only [Description.isElement, Description.isFree, Description.of, List.all_map,
    List.all_eq_true, Function.comp_apply, Property.isElement, Bool.and_eq_true]
  constructor
  · rintro ⟨⟨chars, elements⟩, all⟩ triple member
    exact ⟨chars triple member, (elements triple member).1, (elements triple member).2,
      (free member).mp (all triple member)⟩
  · intro all
    refine ⟨⟨fun triple member => (all triple member).chars, fun triple member => ?_⟩,
      fun triple member => ?_⟩
    · exact ⟨(all triple member).name, (all triple member).space⟩
    · exact (free member).mpr (all triple member).predicate

end Written

/-! ## What is read as it was written -/

theorem numbered_ne_listItem (number : Nat) : numbered number ≠ listItem := by
  intro same
  have parts := congrArg String.toList same
  rw [numbered, listItem, rdfIri, rdfIri, String.toList_append, String.toList_append,
    String.toList_append, List.append_cancel_left_eq] at parts
  have first : some '_' = some 'l' := congrArg List.head? parts
  exact absurd first (by decide)

theorem plain_eq_self_iff (term : Term) :
    term.plain = term ↔ ∀ value, term = .literal value → '\r' ∉ value.toList := by
  cases term with
  | iri value =>
    constructor
    · intro _ other same
      cases same
    · intro _
      rfl
  | literal value =>
    have whole : (Term.literal value).plain = .literal value ↔
        Xml.plainLines value.toList = value.toList := by
      rw [Term.plain, Term.literal.injEq, ← String.toList_inj, String.toList_ofList]
    rw [whole, Xml.plainLines_eq_self_iff]
    simp

theorem numberItems_eq_iff (number : Nat) (triples : List Triple) :
    numberItems number (triples.map fun triple => (triple.predicate.text, triple.object.plain)) =
        triples.map (fun triple => (triple.predicate.text, triple.object)) ↔
      ∀ triple ∈ triples,
        triple.predicate.text ≠ listItem ∧ triple.object.plain = triple.object := by
  induction triples generalizing number with
  | nil => simp [numberItems]
  | cons triple rest ih =>
    rw [List.map_cons, List.map_cons, numberItems, List.forall_mem_cons]
    -- The name of an item is given up for its number, and no number brings it back.
    split
    · next item =>
      constructor
      · intro same
        have first := (Prod.mk.inj (List.cons.inj same).1).1
        exact absurd (first.trans item) (numbered_ne_listItem number)
      · rintro ⟨⟨other, -⟩, -⟩
        exact absurd item other
    · next other =>
      rw [List.cons.injEq, ih]
      simp [other]

theorem asRead_eq_asWritten_iff (group : Term × List Triple) :
    asRead group = asWritten group ↔ ∀ triple ∈ group.2, triple.predicate.text ≠ listItem ∧
      ∀ value, triple.object = .literal value → '\r' ∉ value.toList := by
  rw [asRead, asWritten, Prod.mk.injEq, numberItems_eq_iff]
  simp only [plain_eq_self_iff, true_and]

/-! ## Written graphs -/

variable {namespaces : Namespaces} {pretty : Bool} {statements : List Statement} {text : String}

/-- What is written are the accepted triples, and all of them are named. -/
theorem exists_of_written
    (written : Rdf.write namespaces .rdfXml pretty statements = .ok text) :
    ∃ found, Rdf.triples statements = .ok found ∧ (∀ triple ∈ found, named triple = true) ∧
      text.toList = documentText ((Rdf.bySubject found).map Description.of) := by
  rw [Rdf.write] at written
  split at written
  · cases written
  · next found accepted =>
    dsimp only at written
    split at written
    · next body same =>
      have split := write_isOk found
      rw [same] at split
      have all : found.all named = true := split.symm
      rw [write_eq_documentText all] at same
      cases written
      cases same
      exact ⟨found, accepted, List.all_eq_true.mp all, String.toList_ofList⟩
    · cases written

theorem read?_of_sound {triples : List Triple} (sound : ∀ triple ∈ triples, triple.Sound)
    (split : ∀ triple ∈ triples, named triple = true) :
    read? (documentText ((Rdf.bySubject triples).map Description.of)) =
      if ((Rdf.bySubject triples).map Description.of).all Description.isReadable then
        some ((Rdf.bySubject triples).map asRead)
      else none := by
  have meant : ((Rdf.bySubject triples).map Description.of).map
      (fun description => description.plain.meaning) = (Rdf.bySubject triples).map asRead := by
    rw [List.map_map]
    exact List.map_congr_left fun _ => meaning_of split
  rw [read?_documentText (sound_description sound split), meant]

/-- A graph that is written as RDF/XML lists every statement once, under its subject. The text is
read as that list exactly if every triple is lossless; if all are readable, literals are read with
line feeds for the ends of their lines, and items of lists with their numbers. One triple that is
not readable makes the whole text unreadable. -/
theorem read_of_written (written : Rdf.write namespaces .rdfXml pretty statements = .ok text) :
    ∃ found, found.map Triple.statement = firsts statements ∧
      ((Rdf.bySubject found).flatMap (·.2)).Perm found ∧
      (Rdf.bySubject found).map (·.1) = firsts (found.map Triple.subject) ∧
      ((∀ c ∈ text.toList, Xml.isChar c = true) ↔ ∀ triple ∈ found, LegalChars triple) ∧
      ((∀ triple ∈ found, Readable triple) →
        read? text.toList = some ((Rdf.bySubject found).map asRead)) ∧
      (read? text.toList = none ↔ ∃ triple ∈ found, ¬Readable triple) ∧
      (read? text.toList = some ((Rdf.bySubject found).map asWritten) ↔
        ∀ triple ∈ found, Lossless triple) := by
  obtain ⟨found, accepted, split, same⟩ := exists_of_written written
  obtain ⟨listed, sound⟩ := Rdf.triples_eq_ok accepted
  have chars : (∀ c ∈ text.toList, Xml.isChar c = true) ↔ ∀ triple ∈ found, LegalChars triple := by
    rw [same, ← List.all_eq_true, all_isChar_documentText]
    exact all_descriptions_iff fun _ => legalChars_of split
  have readable : ((Rdf.bySubject found).map Description.of).all Description.isReadable = true ↔
      ∀ triple ∈ found, Readable triple :=
    all_descriptions_iff fun _ => readable_of split
  have whole := read?_of_sound sound split
  rw [← same] at whole
  have kept : (Rdf.bySubject found).map asRead = (Rdf.bySubject found).map asWritten ↔
      ∀ triple ∈ found, triple.predicate.text ≠ listItem ∧
        ∀ value, triple.object = .literal value → '\r' ∉ value.toList := by
    rw [List.map_inj_left, ← Rdf.forall_bySubject_iff]
    exact forall₂_congr fun group _ => asRead_eq_asWritten_iff group
  refine ⟨found, listed, Rdf.perm_bySubject found, Rdf.subjects_bySubject found, chars, ?_⟩
  -- Unreadable triples leave nothing to compare; otherwise the list is as it was read.
  by_cases all : ∀ triple ∈ found, Readable triple
  · rw [if_pos (readable.mpr all)] at whole
    refine ⟨fun _ => whole, ?_, ?_⟩
    · rw [whole]
      constructor
      · intro missing
        cases missing
      · rintro ⟨triple, member, unreadable⟩
        exact absurd (all triple member) unreadable
    · rw [whole, Option.some.injEq, kept]
      constructor
      · intro more triple member
        exact ⟨all triple member, (more triple member).1, (more triple member).2⟩
      · intro lossless triple member
        exact ⟨(lossless triple member).item, (lossless triple member).lines⟩
  · rw [if_neg fun found => all (readable.mp found)] at whole
    refine ⟨fun other => absurd other all, ?_, ?_⟩
    · exact iff_of_true whole (by simpa using all)
    · rw [whole]
      constructor
      · intro missing
        cases missing
      · intro lossless
        exact absurd (fun triple member => (lossless triple member).toReadable) all

/-- A gear with a label that has to be escaped. -/
def labelledGear : Triple :=
  ⟨.iri "http://example.org/gear", .iri "http://example.org/label", .literal "gear & <wheel>"⟩

theorem lossless_labelledGear : Lossless labelledGear where
  chars := by
    have all : [labelledGear.subject, labelledGear.predicate, labelledGear.object].all
        (·.text.toList.all Xml.isChar) = true := by
      decide +kernel
    simpa only [LegalChars, List.all_eq_true] using all
  name := by decide +kernel
  space := by decide +kernel
  predicate := by decide +kernel
  item := by decide +kernel
  lines := by
    intro value same
    cases same
    decide

theorem read_of_written_gear :
    ∃ text, Rdf.write {} .rdfXml true [labelledGear.statement] = .ok text ∧
      read? text.toList = some [("http://example.org/gear",
        [("http://example.org/label", .literal "gear & <wheel>")])] := by
  have accepted : (Rdf.write {} .rdfXml true [labelledGear.statement]).isOk = true := by
    decide +kernel
  obtain ⟨text, written⟩ := exists_ok_iff.mpr accepted
  obtain ⟨found, listed, -, -, -, -, -, whole⟩ := read_of_written written
  obtain rfl : found = [labelledGear] :=
    (List.map_inj_right Triple.statement_injective).mp listed
  refine ⟨text, written, whole.mpr ?_⟩
  intro triple member
  rw [List.mem_singleton.mp member]
  exact lossless_labelledGear

/-- A predicate that ends in the feminine ordinal sign, which is a letter but in no name. -/
def ordinalPredicate : Triple :=
  ⟨.iri "http://example.org/a", .iri "http://example.org/ª", .literal "x"⟩

/-- A graph with it is written nevertheless, as a text that is no XML: the name of an element is
none. -/
theorem unreadable_ordinal :
    ∃ text, Rdf.write {} .rdfXml true [ordinalPredicate.statement] = .ok text ∧
      (Property.of ordinalPredicate).name = ['ª'] ∧ Xml.isName ['ª'] = false ∧
      Xml.read? text.toList = none := by
  have written : (Rdf.write {} .rdfXml true [ordinalPredicate.statement]).isOk = true := by
    decide +kernel
  obtain ⟨text, written⟩ := exists_ok_iff.mpr written
  obtain ⟨found, accepted, split, same⟩ := exists_of_written written
  obtain ⟨listed, sound⟩ := Rdf.triples_eq_ok accepted
  obtain rfl : found = [ordinalPredicate] :=
    (List.map_inj_right Triple.statement_injective).mp listed
  refine ⟨text, written, by decide +kernel, by decide, ?_⟩
  rw [same, tree_documentText (sound_description sound split), if_neg (by decide +kernel)]

end RdfXml

end AnswerGraph
