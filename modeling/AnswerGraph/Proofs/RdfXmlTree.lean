import AnswerGraph.Proofs.RdfXmlText

/-!
The tree that a written RDF/XML document is read as. A property can be read if its name is one in
XML and its namespace may be declared; one that cannot be read makes the whole document unreadable.
-/

namespace AnswerGraph

open Xml (ReadsAs Scope element)

namespace RdfXml

/-! ## Nodes -/

/-- A name of RDF itself. -/
def ownName (part : String) : Xml.Name :=
  ⟨Vocabulary.rdf.toList, part.toList⟩

namespace Property

/-- Whether XML has an element of that name in that namespace. -/
def isElement (property : Property) : Bool :=
  Xml.isName property.name && Xml.mayDeclare [] property.space

def node (property : Property) : Xml.Node :=
  match property.object with
  | .iri value =>
    .element ⟨property.space, property.name⟩ [(ownName "resource", value.toList)] []
  | .literal value =>
    .element ⟨property.space, property.name⟩ [] (Xml.textNodes value.toList)

end Property

namespace Description

def isElement (description : Description) : Bool :=
  description.properties.all Property.isElement

def node (description : Description) : Xml.Node :=
  .element (ownName "Description") [(ownName "about", description.subject)]
    (description.properties.flatMap (fun property => [.text (indent 2), property.node]) ++
      [.text (indent 1)])

end Description

def documentNode (descriptions : List Description) : Xml.Node :=
  .element (ownName "RDF") []
    (descriptions.flatMap (fun description => [.text (indent 1), description.node]) ++
      [.text (indent 0)])

/-! ## Properties -/

/-- What is declared in the whole document. -/
def scope : Scope :=
  [("rdf".toList, Vocabulary.rdf.toList), ("xml".toList, Xml.xmlSpace)]

theorem isTagChar_of_isName {name : List Char} (legal : Xml.isName name = true) :
    ∀ c ∈ name, Xml.isTagChar c = true := by
  intro c member
  cases name with
  | nil => cases member
  | cons first rest =>
    obtain ⟨starts, more⟩ := Bool.and_eq_true_iff.mp legal
    rw [Xml.isTagChar, Xml.isNameChar]
    rcases List.mem_cons.mp member with rfl | later
    · rw [starts, Bool.true_or, Bool.true_or]
    · have own := List.all_eq_true.mp more c later
      rw [Xml.isNameChar] at own
      rw [own, Bool.true_or]

section Frame

variable {progress : Xml.Progress} {name space : List Char}

theorem splitTag?_eq (plain : ':' ∉ name) :
    Xml.splitTag? name = if Xml.isName name then some ([], name) else none := by
  rw [Xml.splitTag?, Text.cutAtChar?_eq_none plain]

theorem declare?_default (within : progress.scope = scope) (more : Xml.Attributes) :
    Xml.declare? progress.scope (("xmlns".toList, space) :: more) =
      if Xml.mayDeclare [] space then Xml.declare? (([], space) :: scope) more else none := by
  rw [within]
  rfl

theorem elementName?_default (plain : ':' ∉ name) (legal : Xml.isName name = true) (outer : Scope) :
    Xml.elementName? (([], space) :: outer) name = some ⟨space, name⟩ := by
  rw [Xml.elementName?, splitTag?_eq plain, if_pos legal]
  rfl

theorem frame?_literal (within : progress.scope = scope) (plain : ':' ∉ name)
    (legal : Xml.isName name = true) (free : Xml.mayDeclare [] space = true) :
    progress.frame? name [("xmlns".toList, space)] =
      some ⟨name, ⟨space, name⟩, [], ([], space) :: scope, []⟩ := by
  apply Xml.Progress.frame?_eq_some
  · rw [declare?_default within, if_pos free]
    rfl
  · exact elementName?_default plain legal scope
  · rfl
  · simp

theorem frame?_iri (within : progress.scope = scope) (plain : ':' ∉ name)
    (legal : Xml.isName name = true) (free : Xml.mayDeclare [] space = true) (value : List Char) :
    progress.frame? name [("xmlns".toList, space), ("rdf:resource".toList, value)] =
      some ⟨name, ⟨space, name⟩, [(ownName "resource", value)], ([], space) :: scope, []⟩ := by
  apply Xml.Progress.frame?_eq_some
  · rw [declare?_default within, if_pos free]
    rfl
  · exact elementName?_default plain legal scope
  · rfl
  · simp

/-- No element is opened by what is no name, or where the namespace may not be declared. -/
theorem frame?_refused (within : progress.scope = scope) (plain : ':' ∉ name)
    (refused : (Xml.isName name && Xml.mayDeclare [] space) = false) (more : Xml.Attributes) :
    progress.frame? name (("xmlns".toList, space) :: more) = none := by
  rw [Xml.Progress.frame?, declare?_default within]
  cases free : Xml.mayDeclare [] space with
  | false => rfl
  | true =>
    rw [free, Bool.and_true] at refused
    have unnamed (inner : Scope) : Xml.elementName? inner name = none := by
      rw [Xml.elementName?, splitTag?_eq plain, refused]
      rfl
    simp only [if_true, Option.bind_eq_bind, unnamed, Option.bind_none, Option.bind_fun_none]

end Frame

namespace Property

variable {property : Property} (sound : property.Sound)
include sound

theorem Sound.plain_name : ':' ∉ property.name :=
  fun member => (sound.name _ member).2.2.2 rfl

theorem Sound.readsAs_node (legal : Xml.isName property.name = true)
    (free : Xml.mayDeclare [] property.space = true) :
    ReadsAs scope property.text (some [property.node]) := by
  have plain := isTagChar_of_isName legal
  unfold text node
  cases object : property.object with
  | iri value =>
    exact Xml.readsAs_closedElement plain (sound.writable_iri object) (List.cons_ne_nil _ _)
      fun progress within => frame?_iri within sound.plain_name legal free value.toList
  | literal value =>
    have noTag : '<' ∉ elementText value.toList := fun member =>
      Xml.forall_elementText (P := (· ≠ '<')) (Text.forall_of_all (by decide))
        (fun _ _ other _ => other) _ member rfl
    have nothing : ReadsAs (([], property.space) :: scope) [] (if true then some [] else none) :=
      Xml.readsAs_nil
    have reads := Xml.readsAs_element plain sound.writable_space (List.cons_ne_nil _ _)
      (fun progress within => frame?_literal within sound.plain_name legal free) nothing noTag
      (Xml.content?_elementText _) Xml.elementText_eq_nil_iff
    rwa [List.nil_append, List.nil_append, if_pos rfl] at reads

theorem Sound.readsAs_none (refused : property.isElement = false) :
    ReadsAs scope property.text none := by
  have opens (more : Xml.Attributes) (progress : Xml.Progress) (within : progress.scope = scope) :
      progress.frame? property.name (("xmlns".toList, property.space) :: more) = none :=
    frame?_refused within sound.plain_name refused more
  -- Such a name is a tag that opens nothing, or it is cut short by a character of no tag.
  by_cases plain : ∀ c ∈ property.name, Xml.isTagChar c = true
  · unfold text
    cases object : property.object with
    | iri value =>
      exact Xml.readsAs_refused plain (sound.writable_iri object) (List.cons_ne_nil _ _)
        (fun rest => ⟨rest, Xml.attributes?_closed rest⟩) (opens _)
    | literal value =>
      exact Xml.readsAs_refused plain sound.writable_space (List.cons_ne_nil _ _)
        (fun rest => ⟨_, Xml.attributes?_end _⟩) (opens _)
  · obtain ⟨c, inside⟩ := not_forall.mp plain
    obtain ⟨member, other⟩ := Classical.not_imp.mp inside
    obtain ⟨more, starts⟩ := property.exists_text
    rw [starts]
    apply Xml.readsAs_broken member (Bool.eq_false_iff.mpr other)
    intro c member
    obtain ⟨solid, noEnd, noClosing, -⟩ := sound.name c member
    exact ⟨solid, noEnd, noClosing⟩

/-- A property is read as its element, unless XML has no such element. -/
theorem Sound.readsAs :
    ReadsAs scope property.text (if property.isElement then some [property.node] else none) := by
  cases element : property.isElement with
  | false => exact sound.readsAs_none element
  | true =>
    obtain ⟨legal, free⟩ := Bool.and_eq_true_iff.mp element
    exact sound.readsAs_node legal free

end Property

/-! ## The document -/

/-- A line between two elements is read as it is. -/
theorem readsAs_indented {within : Scope} {text : List Char} {readable : Bool} {node : Xml.Node}
    {depth : Nat} (shallow : depth < 3)
    (reads : ReadsAs within text (if readable then some [node] else none))
    (starts : text.head? = some '<') :
    ReadsAs within (indent depth ++ text)
      (if readable then some [.text (indent depth), node] else none) := by
  have plain : ∀ depth < 3,
      '<' ∉ indent depth ∧ Xml.content? (indent depth) = some (indent depth) := by
    decide
  obtain ⟨noTag, stands⟩ := plain depth shallow
  exact reads.indented starts (List.cons_ne_nil _ _) noTag stands

namespace Description

variable {description : Description} (sound : description.Sound)
include sound

theorem Sound.readsAs : ReadsAs scope description.text
    (if description.isElement then some [description.node] else none) := by
  have properties : ReadsAs scope
      (description.properties.flatMap fun property => indent 2 ++ property.text)
      (if description.isElement then
        some (description.properties.flatMap fun property => [.text (indent 2), property.node])
      else none) := by
    apply Xml.readsAs_flatMap
    intro property member
    apply readsAs_indented (by decide) (sound.properties property member).readsAs
    obtain ⟨more, starts⟩ := property.exists_text
    rw [starts]
    rfl
  have opens (progress : Xml.Progress) (within : progress.scope = scope) :
      progress.frame? "rdf:Description".toList [("rdf:about".toList, description.subject)] =
        some ⟨"rdf:Description".toList, ownName "Description",
          [(ownName "about", description.subject)], scope, []⟩ := by
    apply Xml.Progress.frame?_eq_some
    · rw [within]
      rfl
    · rfl
    · rfl
    · simp
  have noTag : '<' ∉ indent 1 := by decide
  have stands : Xml.content? (indent 1) = some (indent 1) := rfl
  exact Xml.readsAs_element (Text.forall_of_all (by decide)) sound.writable (List.cons_ne_nil _ _)
    opens properties noTag stands Iff.rfl

end Description

theorem dropDeclaration_documentText (descriptions : List Description) :
    Xml.dropDeclaration (documentText descriptions) = indent 0 ++
      element "rdf:RDF".toList [("xmlns:rdf".toList, Vocabulary.rdf.toList)]
        (descriptions.flatMap (fun description => indent 1 ++ description.text) ++ indent 0) ++
      indent 0 := by
  unfold documentText
  rw [List.append_assoc, List.append_assoc, List.append_assoc]
  exact congrArg (Option.getD · _) (Text.dropPrefix?_eq_some.mpr rfl)

/-- The line behind an element that is not in another. -/
theorem readAll?_lastLine (progress : Xml.Progress) :
    progress.readAll? (indent 0) = some (progress.add (.text (indent 0))) := by
  have read : progress.readAll? (indent 0 ++ []) =
      (progress.add (.text (indent 0))).readAll? [] :=
    Xml.Progress.readAll?_text (List.cons_ne_nil _ _) (by decide) rfl (by simp)
  rwa [List.append_nil, Xml.Progress.readAll?_nil] at read

section Document

variable {descriptions : List Description} (sound : ∀ description ∈ descriptions, description.Sound)
include sound

/-- The whole of a document is one element. -/
theorem readsAs_document : ReadsAs [("xml".toList, Xml.xmlSpace)]
    (element "rdf:RDF".toList [("xmlns:rdf".toList, Vocabulary.rdf.toList)]
      (descriptions.flatMap (fun description => indent 1 ++ description.text) ++ indent 0))
    (if descriptions.all Description.isElement then some [documentNode descriptions]
      else none) := by
  have inner : ReadsAs scope
      (descriptions.flatMap fun description => indent 1 ++ description.text)
      (if descriptions.all Description.isElement then
        some (descriptions.flatMap fun description => [.text (indent 1), description.node])
      else none) := by
    apply Xml.readsAs_flatMap
    intro description member
    exact readsAs_indented (by decide) (sound description member).readsAs rfl
  have opens (progress : Xml.Progress) (within : progress.scope = [("xml".toList, Xml.xmlSpace)]) :
      progress.frame? "rdf:RDF".toList [("xmlns:rdf".toList, Vocabulary.rdf.toList)] =
        some ⟨"rdf:RDF".toList, ownName "RDF", [], scope, []⟩ := by
    apply Xml.Progress.frame?_eq_some
    · rw [within]
      rfl
    · rfl
    · rfl
    · simp
  have noTag : '<' ∉ indent 0 := by decide
  have stands : Xml.content? (indent 0) = some (indent 0) := rfl
  exact Xml.readsAs_element (Text.forall_of_all (by decide)) writable_rdf (List.cons_ne_nil _ _)
    opens inner noTag stands Iff.rfl

/-- A document is read as a tree if all its characters are legal and all its properties can be
elements; otherwise it cannot be read. -/
theorem tree_documentText : Xml.read? (documentText descriptions) =
    if descriptions.all Description.hasLegalChars && descriptions.all Description.isElement then
      some (documentNode (descriptions.map Description.plain))
    else none := by
  have alike : (descriptions.map Description.plain).all Description.isElement =
      descriptions.all Description.isElement := by
    simp only [List.all_map, Function.comp_def, Description.isElement, Description.plain]
    rfl
  have plain : ∀ description ∈ descriptions.map Description.plain, description.Sound := by
    intro description member
    obtain ⟨own, inside, rfl⟩ := List.mem_map.mp member
    exact (sound own inside).plain
  have whole := readsAs_indented (by decide : 0 < 3) (readsAs_document plain) rfl {} rfl (indent 0)
  rw [Xml.read?, all_isChar_documentText, plainLines_documentText sound,
    dropDeclaration_documentText, whole, alike]
  cases descriptions.all Description.hasLegalChars with
  | false => rfl
  | true =>
    cases descriptions.all Description.isElement with
    | false => rfl
    | true =>
      simp only [if_true, Option.bind_some, Bool.and_self, readAll?_lastLine]
      rfl

end Document

end RdfXml

end AnswerGraph
