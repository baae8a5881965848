import AnswerGraph.Proofs.LinkedFormats
import AnswerGraph.Proofs.XmlTree

/-!
The text of a written RDF/XML document: a sequence of descriptions, each of which is a sequence of
properties. All its characters are legal if those of the terms are, and its lines end as those of
the literals do.
-/

namespace AnswerGraph

open Xml (attributesText closedElement element Solid plainLines)

namespace RdfXml

/-! ## The parts of a document -/

/-- A property as it is written: the two parts of its predicate, and its object. -/
structure Property where
  space : List Char
  name : List Char
  object : Term

structure Description where
  subject : List Char
  properties : List Property

/-- A new line, and what stands before an element of that depth. -/
def indent (depth : Nat) : List Char :=
  '\n' :: List.replicate (2 * depth) ' '

namespace Property

def of (triple : Triple) : Property :=
  let (space, name) := (splitName? triple.predicate.text.toList).getD ([], [])
  ⟨space, name, triple.object⟩

def text (property : Property) : List Char :=
  match property.object with
  | .iri value => closedElement property.name
      [("xmlns".toList, property.space), ("rdf:resource".toList, value.toList)]
  | .literal value => element property.name [("xmlns".toList, property.space)]
      (elementText value.toList)

/-- A property starts with its name. -/
theorem exists_text (property : Property) :
    ∃ more, property.text = '<' :: (property.name ++ more) := by
  obtain ⟨space, name, object⟩ := property
  cases object with
  | iri value => exact ⟨_, congrArg (List.cons '<') (List.append_assoc ..)⟩
  | literal value => exact ⟨_, congrArg (List.cons '<') (List.append_assoc ..)⟩

end Property

namespace Description

def of (group : Term × List Triple) : Description :=
  ⟨group.1.text.toList, group.2.map Property.of⟩

def text (description : Description) : List Char :=
  element "rdf:Description".toList [("rdf:about".toList, description.subject)]
    (description.properties.flatMap (fun property => indent 2 ++ property.text) ++ indent 1)

end Description

def declaration : List Char := "<?xml version=\"1.0\" encoding=\"UTF-8\"?>".toList

def documentText (descriptions : List Description) : List Char :=
  declaration ++ indent 0 ++
    element "rdf:RDF".toList [("xmlns:rdf".toList, Vocabulary.rdf.toList)]
      (descriptions.flatMap (fun description => indent 1 ++ description.text) ++ indent 0) ++
    indent 0

/-- A mark behind every item, and one in front, is one before every item, and one behind. -/
theorem cons_flatMap_mark (mark : Char) (text : α → List Char) (items : List α)
    (rest : List Char) :
    mark :: (items.flatMap (fun item => text item ++ [mark]) ++ rest) =
      items.flatMap (fun item => mark :: text item) ++ mark :: rest := by
  induction items with
  | nil => rfl
  | cons item items ih => simp [← ih]

/-- The predicate of a property is split into the parts of the property. -/
theorem splitName?_of_named {triple : Triple} (split : named triple = true) :
    splitName? triple.predicate.text.toList =
      some ((Property.of triple).space, (Property.of triple).name) := by
  obtain ⟨⟨space, name⟩, found⟩ := Option.isSome_iff_exists.mp split
  rw [Property.of, found]
  rfl

theorem element?_eq {triple : Triple} (split : named triple = true) :
    element? triple = some ("    ".toList ++ (Property.of triple).text ++ ['\n']) := by
  have whole : (Property.of triple).object = triple.object := rfl
  rw [element?, splitName?_of_named split, Property.text, whole]
  cases triple.object <;> simp [closedElement, element, attributesText]

theorem elements_eq {triples : List Triple} (split : triples.all named = true) :
    elements triples = .ok (triples.flatMap fun triple =>
      "    ".toList ++ (Property.of triple).text ++ ['\n']) := by
  induction triples with
  | nil => rfl
  | cons triple rest ih =>
    obtain ⟨own, others⟩ := Bool.and_eq_true_iff.mp split
    rw [elements, element?_eq own, ih others]
    rfl

/-- How a tag ends in front of a line. -/
theorem tagEnd_eq : "\">\n".toList = ['"', '>', '\n'] := by decide

theorem description_eq {group : Term × List Triple} (split : group.2.all named = true) :
    description group.1 group.2 = .ok ("  ".toList ++ (Description.of group).text ++ ['\n']) := by
  have front : "  <rdf:Description rdf:about=\"".toList =
      "  ".toList ++
        '<' :: ("rdf:Description".toList ++ ' ' :: ("rdf:about".toList ++ ['=', '"'])) := by
    decide
  have back : '\n' :: "  </rdf:Description>\n".toList =
      indent 1 ++ '<' :: '/' :: ("rdf:Description".toList ++ ['>', '\n']) := by decide
  -- The writer ends every line, while a reader finds a line in front of every element.
  have turned := cons_flatMap_mark '\n'
    (fun triple => "    ".toList ++ (Property.of triple).text) group.2
    ("  </rdf:Description>\n".toList)
  rw [back] at turned
  rw [description, elements_eq split]
  refine congrArg Except.ok ?_
  simp only [Description.of, Description.text, element, attributesText, List.flatMap_map,
    List.flatMap_cons, List.flatMap_nil, front, tagEnd_eq, List.append_assoc, List.cons_append,
    List.nil_append]
  simp only [List.append_assoc] at turned
  simp only [turned, List.append_cancel_left_eq, List.cons.injEq, true_and]
  rfl

theorem descriptions_eq {groups : List (Term × List Triple)}
    (split : groups.all (fun group => group.2.all named) = true) :
    descriptions groups = .ok (groups.flatMap fun group =>
      "  ".toList ++ (Description.of group).text ++ ['\n']) := by
  induction groups with
  | nil => rfl
  | cons group rest ih =>
    obtain ⟨own, others⟩ := Bool.and_eq_true_iff.mp split
    rw [descriptions, description_eq own, ih others]
    rfl

/-- The text of a graph is that of its descriptions. -/
theorem write_eq_documentText {triples : List Triple} (split : triples.all named = true) :
    write triples = .ok (documentText ((Rdf.bySubject triples).map Description.of)) := by
  have all : (Rdf.bySubject triples).all (fun group => group.2.all named) = true := by
    have written := write_isOk triples
    rw [split] at written
    rw [← descriptions_isOk]
    rw [write] at written
    cases found : descriptions (Rdf.bySubject triples) with
    | ok body => rfl
    | error triple =>
      rw [found] at written
      cases written
  have own : attributeText Vocabulary.rdf.toList = Vocabulary.rdf.toList := by decide
  have front : "<?xml version=\"1.0\" encoding=\"UTF-8\"?>\n<rdf:RDF xmlns:rdf=\"".toList =
      declaration ++ (indent 0 ++
        '<' :: ("rdf:RDF".toList ++ ' ' :: ("xmlns:rdf".toList ++ ['=', '"']))) := by decide
  have back : '\n' :: "</rdf:RDF>\n".toList =
      indent 0 ++ '<' :: '/' :: ("rdf:RDF".toList ++ '>' :: indent 0) := by decide
  have turned := cons_flatMap_mark '\n'
    (fun group => "  ".toList ++ (Description.of group).text) (Rdf.bySubject triples)
    ("</rdf:RDF>\n".toList)
  rw [back] at turned
  rw [write, descriptions_eq all]
  refine congrArg Except.ok ?_
  simp only [documentText, element, attributesText, List.flatMap_map, List.flatMap_cons,
    List.flatMap_nil, own, front, tagEnd_eq, List.append_assoc, List.cons_append, List.nil_append]
  simp only [List.append_assoc] at turned
  simp only [turned, List.append_cancel_left_eq, List.cons.injEq, true_and]
  rfl

/-! ## Characters -/

theorem all_isChar_escapeTextChar (c : Char) :
    (escapeTextChar c).all Xml.isChar = Xml.isChar c := by
  rw [escapeTextChar]
  split
  · subst c
    decide
  split
  · subst c
    decide
  split
  · subst c
    decide
  · simp

theorem all_isChar_elementText (value : List Char) :
    (elementText value).all Xml.isChar = value.all Xml.isChar := by
  rw [elementText, List.all_flatMap]
  simp only [all_isChar_escapeTextChar]

theorem all_isChar_attributeText (value : List Char) :
    (attributeText value).all Xml.isChar = value.all Xml.isChar := by
  have own (c : Char) : (escapeAttributeChar c).all Xml.isChar = Xml.isChar c := by
    rw [Xml.escapeAttributeChar_eq]
    split
    · subst c
      decide
    · exact all_isChar_escapeTextChar c
  rw [attributeText, List.all_flatMap]
  simp only [own]

theorem all_isChar_attributesText (given : Xml.Attributes) :
    (attributesText given).all Xml.isChar =
      given.all fun (tag, value) => tag.all Xml.isChar && value.all Xml.isChar := by
  have space : Xml.isChar ' ' = true := by decide
  have equals : Xml.isChar '=' = true := by decide
  have quote : Xml.isChar '"' = true := by decide
  simp only [attributesText, List.all_flatMap, List.all_cons, List.all_append,
    all_isChar_attributeText, List.all_nil, space, equals, quote, Bool.true_and, Bool.and_true]

theorem all_isChar_closedElement (tag : List Char) (given : Xml.Attributes) :
    (closedElement tag given).all Xml.isChar =
      (tag.all Xml.isChar && given.all fun (tag, value) =>
        tag.all Xml.isChar && value.all Xml.isChar) := by
  have opening : Xml.isChar '<' = true := by decide
  have slash : Xml.isChar '/' = true := by decide
  have closing : Xml.isChar '>' = true := by decide
  simp only [closedElement, List.all_cons, List.all_append, all_isChar_attributesText, opening,
    slash, closing, List.all_nil, Bool.true_and, Bool.and_true]

theorem all_isChar_element (tag : List Char) (given : Xml.Attributes) (body : List Char) :
    (element tag given body).all Xml.isChar =
      (tag.all Xml.isChar && (given.all fun (tag, value) =>
        tag.all Xml.isChar && value.all Xml.isChar) && body.all Xml.isChar) := by
  have opening : Xml.isChar '<' = true := by decide
  have closing : Xml.isChar '>' = true := by decide
  have slash : Xml.isChar '/' = true := by decide
  simp only [element, List.all_cons, List.all_append, all_isChar_attributesText, opening, closing,
    slash, List.all_nil, Bool.true_and, Bool.and_true]
  cases tag.all Xml.isChar <;> simp

namespace Property

def hasLegalChars (property : Property) : Bool :=
  property.space.all Xml.isChar && property.name.all Xml.isChar &&
    property.object.text.toList.all Xml.isChar

theorem all_isChar_text (property : Property) :
    property.text.all Xml.isChar = property.hasLegalChars := by
  obtain ⟨space, name, object⟩ := property
  have fixed : "xmlns".toList.all Xml.isChar = true ∧
      "rdf:resource".toList.all Xml.isChar = true := by
    decide
  cases object with
  | iri value =>
    simp only [text, all_isChar_closedElement, List.all_cons, List.all_nil, fixed, hasLegalChars,
      Term.text, Bool.true_and, Bool.and_true]
    ac_rfl
  | literal value =>
    simp only [text, all_isChar_element, all_isChar_elementText, List.all_cons, List.all_nil, fixed,
      hasLegalChars, Term.text, Bool.true_and, Bool.and_true]
    ac_rfl

end Property

def Description.hasLegalChars (description : Description) : Bool :=
  description.subject.all Xml.isChar && description.properties.all Property.hasLegalChars

theorem Description.all_isChar_text (description : Description) :
    description.text.all Xml.isChar = description.hasLegalChars := by
  have fixed : "rdf:Description".toList.all Xml.isChar = true ∧
      "rdf:about".toList.all Xml.isChar = true ∧ (indent 1).all Xml.isChar = true ∧
      (indent 2).all Xml.isChar = true := by
    decide
  simp only [text, all_isChar_element, List.all_append, List.all_flatMap, Property.all_isChar_text,
    List.all_cons, List.all_nil, fixed, hasLegalChars, Bool.true_and, Bool.and_true]

/-- A document has legal characters only if what it is about has, and no others but legal ones are
added. -/
theorem all_isChar_documentText (descriptions : List Description) :
    (documentText descriptions).all Xml.isChar = descriptions.all Description.hasLegalChars := by
  have fixed : declaration.all Xml.isChar = true ∧ "rdf:RDF".toList.all Xml.isChar = true ∧
      "xmlns:rdf".toList.all Xml.isChar = true ∧ Vocabulary.rdf.toList.all Xml.isChar = true ∧
      (indent 0).all Xml.isChar = true ∧ (indent 1).all Xml.isChar = true := by
    decide +kernel
  simp only [documentText, all_isChar_element, List.all_append, List.all_flatMap,
    Description.all_isChar_text, List.all_cons, List.all_nil, fixed, Bool.true_and, Bool.and_true]

/-! ## Ends of lines -/

end RdfXml

/-- The term that is read in place of another. -/
def Term.plain : Term → Term
  | iri value => iri value
  | literal value => literal (String.ofList (plainLines value.toList))

namespace RdfXml

namespace Property

def plain (property : Property) : Property :=
  { property with object := property.object.plain }

/-- What no tag or value may have; this is true of all properties of sound triples. -/
structure Sound (property : Property) : Prop where
  space : Solid property.space
  name : ∀ c ∈ property.name, Xml.isSpace c = false ∧ c ≠ '>' ∧ c ≠ '/' ∧ c ≠ ':'
  object : ∀ value, property.object = .iri value → Solid value.toList

variable {property : Property} (sound : property.Sound)
include sound

theorem Sound.returnless : '\r' ∉ property.name := by
  intro member
  exact absurd (sound.name _ member).1 (by decide)

theorem Sound.plain : property.plain.Sound := by
  refine ⟨sound.space, sound.name, fun value same => ?_⟩
  cases object : property.object with
  | iri own =>
    rw [Property.plain, object] at same
    obtain rfl := Term.iri.inj same
    exact sound.object own object
  | literal own =>
    rw [Property.plain, object] at same
    cases same

theorem Sound.writable_space : Xml.Writable [("xmlns".toList, property.space)] :=
  .cons (by decide) (Text.forall_of_all (by decide)) sound.space Xml.writable_nil

theorem Sound.writable_iri {value : String} (object : property.object = .iri value) :
    Xml.Writable [("xmlns".toList, property.space), ("rdf:resource".toList, value.toList)] :=
  .cons (by decide) (Text.forall_of_all (by decide)) sound.space <|
    .cons (by decide) (Text.forall_of_all (by decide)) (sound.object value object) Xml.writable_nil

theorem Sound.endsAs_text : Xml.EndsAs property.text property.plain.text := by
  unfold text Property.plain
  cases object : property.object with
  | iri value => exact Xml.endsAs_closedElement sound.returnless (sound.writable_iri object)
  | literal value =>
    have inside (rest : List Char) : plainLines (elementText value.toList ++ '<' :: rest) =
        elementText (plainLines value.toList) ++ plainLines ('<' :: rest) := by
      rw [Xml.plainLines_append (by simp), Xml.plainLines_elementText]
    simpa [Term.plain] using
      Xml.endsAs_element sound.returnless sound.writable_space inside

end Property

namespace Description

def plain (description : Description) : Description :=
  { description with properties := description.properties.map Property.plain }

structure Sound (description : Description) : Prop where
  subject : Solid description.subject
  properties : ∀ property ∈ description.properties, property.Sound

variable {description : Description} (sound : description.Sound)
include sound

theorem Sound.plain : description.plain.Sound := by
  refine ⟨sound.subject, fun property member => ?_⟩
  obtain ⟨own, inside, rfl⟩ := List.mem_map.mp member
  exact (sound.properties own inside).plain

theorem Sound.writable :
    Xml.Writable [("rdf:about".toList, description.subject)] :=
  .cons (by decide) (Text.forall_of_all (by decide)) sound.subject Xml.writable_nil

theorem Sound.endsAs_text : Xml.EndsAs description.text description.plain.text := by
  have fixed : '\r' ∉ "rdf:Description".toList ∧ '\r' ∉ indent 1 ∧ '\r' ∉ indent 2 := by
    decide
  have inside := (Xml.endsAs_flatMap fun property member =>
    (Xml.endsAs_of_returnless fixed.2.2).append
      (sound.properties property member).endsAs_text).append
    (Xml.endsAs_of_returnless fixed.2.1)
  have lines := Xml.endsAs_element fixed.1 sound.writable fun rest => inside ('<' :: rest)
  simpa [text, Description.plain, List.flatMap_map] using lines

end Description

/-- The declaration of the prefix. -/
theorem writable_rdf : Xml.Writable [("xmlns:rdf".toList, Vocabulary.rdf.toList)] := by
  have solid : Solid Vocabulary.rdf.toList := Text.forall_of_all (by decide)
  exact .cons (by decide) (Text.forall_of_all (by decide)) solid Xml.writable_nil

/-- Only the ends of lines in literals are not read as they were written. -/
theorem plainLines_documentText {descriptions : List Description}
    (sound : ∀ description ∈ descriptions, description.Sound) :
    plainLines (documentText descriptions) = documentText (descriptions.map Description.plain) := by
  have fixed : '\r' ∉ declaration ++ indent 0 ∧ '\r' ∉ "rdf:RDF".toList ∧ '\r' ∉ indent 0 ∧
      '\r' ∉ indent 1 := by
    decide +kernel
  have inside := (Xml.endsAs_flatMap fun description member =>
    (Xml.endsAs_of_returnless fixed.2.2.2).append
      (sound description member).endsAs_text).append
    (Xml.endsAs_of_returnless fixed.2.2.1)
  have lines := ((Xml.endsAs_of_returnless fixed.1).append
    (Xml.endsAs_element fixed.2.1 writable_rdf fun rest => inside ('<' :: rest))).append
    (Xml.endsAs_of_returnless fixed.2.2.1) []
  simpa [documentText, List.flatMap_map, plainLines] using lines

end RdfXml

end AnswerGraph
