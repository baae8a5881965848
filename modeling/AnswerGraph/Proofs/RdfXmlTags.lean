import AnswerGraph.Proofs.RdfXmlMeaning
import Mathlib.Data.List.Infix

/-!
The tags of an RDF/XML document. What is written of a term is escaped, so that a tag stands only
where one was written. A document has as many tags of descriptions as it has descriptions, also if
it is no XML; if it is, these are all the elements in its root.
-/

namespace AnswerGraph

/-- How often a word stands in a text. -/
def Text.occurrences (word text : List Char) : Nat :=
  text.tails.countP word.isPrefixOf

/-- A word without a character does not reach beyond that character. -/
theorem Text.prefix_append_iff {word front rest : List Char} {c : Char} (absent : c ∉ word) :
    word <+: front ++ c :: rest ↔ word <+: front := by
  constructor
  · intro starts
    rcases List.prefix_or_prefix_of_prefix starts (List.prefix_append front _) with
      inside | ⟨more, rfl⟩
    · exact inside
    · -- A longer word would go on with the character.
      have onward : more <+: c :: rest := (List.prefix_append_right_inj front).mp starts
      cases more with
      | nil => rw [List.append_nil]
      | cons next more =>
        obtain ⟨rfl, -⟩ := List.cons_prefix_cons.mp onward
        exact absurd (List.mem_append_right front List.mem_cons_self) absent
  · exact fun inside => inside.trans (List.prefix_append front _)

open Xml (Attributes attributesText closedElement element)

namespace RdfXml

/-- How the tag of a description starts, without its first character. -/
def descriptionName : List Char := "rdf:Description ".toList

def descriptionTag : List Char := '<' :: descriptionName

/-- A text has a number of tags of descriptions, whatever follows. -/
def HasTags (text : List Char) (number : Nat) : Prop :=
  ∀ rest, Text.occurrences descriptionTag (text ++ rest) =
    number + Text.occurrences descriptionTag rest

/-! ## Texts -/

theorem HasTags.append {text more : List Char} {number others : Nat} (front : HasTags text number)
    (back : HasTags more others) : HasTags (text ++ more) (number + others) := by
  intro rest
  rw [List.append_assoc, front, back, Nat.add_assoc]

theorem hasTags_flatMap {text : α → List Char} {number : Nat} {items : List α}
    (each : ∀ item ∈ items, HasTags (text item) number) :
    HasTags (items.flatMap text) (items.length * number) := by
  induction items with
  | nil =>
    intro rest
    simp
  | cons item rest ih =>
    have others := ih fun other member => each other (List.mem_cons_of_mem _ member)
    rw [List.flatMap_cons, List.length_cons, Nat.succ_mul, Nat.add_comm]
    exact (each item List.mem_cons_self).append others

/-- No tag stands where no tag starts. -/
theorem hasTags_of_tagless {text : List Char} (tagless : '<' ∉ text) : HasTags text 0 := by
  intro rest
  rw [Nat.zero_add]
  induction text with
  | nil => rfl
  | cons c text ih =>
    obtain ⟨other, tagless⟩ := not_or.mp fun found => tagless (List.mem_cons.mpr found)
    have apart : descriptionTag.isPrefixOf (c :: (text ++ rest)) = false := by
      simp [descriptionTag, List.isPrefixOf, other]
    rw [List.cons_append, Text.occurrences, List.tails_cons, List.countP_cons, apart]
    exact ih tagless

/-- A tag is one of a description if it starts like one. -/
theorem hasTags_tag {inner : List Char} (tagless : '<' ∉ inner) :
    HasTags ('<' :: (inner ++ ['>'])) (if descriptionName <+: inner then 1 else 0) := by
  intro rest
  have behind := @hasTags_of_tagless (inner ++ ['>']) (by simp [tagless]) rest
  have starts : descriptionTag.isPrefixOf ('<' :: (inner ++ ['>'] ++ rest)) =
      decide (descriptionName <+: inner) := by
    rw [Bool.eq_iff_iff, List.isPrefixOf_iff_prefix, decide_eq_true_iff, descriptionTag,
      List.cons_prefix_cons, List.append_assoc]
    exact (and_iff_right rfl).trans (Text.prefix_append_iff (by decide))
  rw [Nat.zero_add] at behind
  rw [List.cons_append, Text.occurrences, List.tails_cons, List.countP_cons, starts,
    ← Text.occurrences, behind, Nat.add_comm]
  simp only [decide_eq_true_eq]

/-! ## Elements -/

theorem tagless_attributesText {given : Attributes} (plain : ∀ entry ∈ given, '<' ∉ entry.1) :
    '<' ∉ attributesText given := by
  intro member
  obtain ⟨⟨tag, value⟩, inside, own⟩ := List.mem_flatMap.mp member
  have escaped : '<' ∉ attributeText value := fun member =>
    Xml.forall_attributeText (P := (· ≠ '<')) (Text.forall_of_all (by decide))
      (fun _ _ other _ _ => other) _ member rfl
  simp [plain _ inside, escaped] at own

theorem hasTags_closedElement {tag : List Char} {given : Attributes} (noTag : '<' ∉ tag)
    (plain : ∀ entry ∈ given, '<' ∉ entry.1)
    (other : ¬ descriptionName <+: tag ++ attributesText given ++ ['/']) :
    HasTags (closedElement tag given) 0 := by
  have tagless : '<' ∉ tag ++ attributesText given ++ ['/'] := by
    simp [noTag, tagless_attributesText plain]
  have whole := hasTags_tag tagless
  rw [if_neg other] at whole
  simpa [closedElement] using whole

/-- An element has the tags between its own, and itself if it is a description. -/
theorem hasTags_element {tag body : List Char} {given : Attributes} {number : Nat}
    (noTag : '<' ∉ tag) (plain : ∀ entry ∈ given, '<' ∉ entry.1) (inside : HasTags body number) :
    HasTags (element tag given body)
      ((if descriptionName <+: tag ++ attributesText given then 1 else 0) + number) := by
  have opening := @hasTags_tag (tag ++ attributesText given)
    (by simp [noTag, tagless_attributesText plain])
  have closing := @hasTags_tag ('/' :: tag) (by simp [noTag])
  have other : ¬ descriptionName <+: '/' :: tag := fun starts =>
    absurd ((@Text.prefix_append_iff _ [] tag '/' (by decide)).mp starts) (by decide)
  rw [if_neg other] at closing
  have whole := (opening.append inside).append closing
  simpa [element] using whole

theorem hasTags_elementText (value : List Char) : HasTags (elementText value) 0 :=
  hasTags_of_tagless fun member =>
    Xml.forall_elementText (P := (· ≠ '<')) (Text.forall_of_all (by decide))
      (fun _ _ other _ => other) _ member rfl

theorem hasTags_indent (depth : Nat) : HasTags (indent depth) 0 :=
  hasTags_of_tagless (by simp [indent])

/-! ## Documents -/

/-- A name without a prefix is not that of a description. -/
theorem not_descriptionName {name rest : List Char} (plain : ':' ∉ name) :
    ¬ descriptionName <+: name ++ ' ' :: rest := by
  intro starts
  have lead : "rdf:".toList <+: descriptionName := by decide
  have inside := (Text.prefix_append_iff (by decide)).mp (lead.trans starts)
  exact plain (inside.subset (by decide))

section Triples

variable {triple : Triple} (split : named triple = true)
include split

theorem plain_name_of : '<' ∉ (Property.of triple).name ∧ ':' ∉ (Property.of triple).name := by
  have others : ∀ c ∈ ['<', ':'], (isNameStart c || isNameChar c) = false :=
    Text.forall_of_all (by decide +kernel)
  have apart {other : Char} (listed : other ∈ ['<', ':']) :
      other ∉ (Property.of triple).name := by
    intro member
    have own := (parts_of_splitName? (splitName?_of_named split)).2 other member
    rw [others other listed] at own
    cases own
  exact ⟨apart (by decide), apart (by decide)⟩

theorem hasTags_property : HasTags (Property.of triple).text 0 := by
  obtain ⟨noTag, plain⟩ := plain_name_of split
  have other (more : Attributes) (rest : List Char) : ¬ descriptionName <+:
      (Property.of triple).name ++
        attributesText (("xmlns".toList, (Property.of triple).space) :: more) ++ rest := by
    rw [List.append_assoc, Xml.attributesText_cons]
    exact not_descriptionName plain
  unfold Property.text
  cases object : (Property.of triple).object with
  | iri value =>
    exact hasTags_closedElement noTag (by simp) (other _ _)
  | literal value =>
    have whole := @hasTags_element _ _ [("xmlns".toList, (Property.of triple).space)] _ noTag
      (by simp) (hasTags_elementText value.toList)
    rw [if_neg fun starts => other [] [] (by rwa [List.append_nil])] at whole
    exact whole

end Triples

/-- A description has its own tag, and that of no other. -/
theorem hasTags_description {group : Term × List Triple}
    (split : ∀ triple ∈ group.2, named triple = true) :
    HasTags (Description.of group).text 1 := by
  have properties : HasTags ((Description.of group).properties.flatMap fun property =>
      indent 2 ++ property.text) 0 := by
    have each : ∀ property ∈ (Description.of group).properties,
        HasTags (indent 2 ++ property.text) 0 := by
      intro property member
      obtain ⟨triple, inside, rfl⟩ := List.mem_map.mp member
      exact (hasTags_indent 2).append (hasTags_property (split triple inside))
    have whole := hasTags_flatMap each
    rwa [Nat.mul_zero] at whole
  have whole := @hasTags_element "rdf:Description".toList _
    [("rdf:about".toList, (Description.of group).subject)] _ (by decide) (by simp)
    (properties.append (hasTags_indent 1))
  have own : descriptionName <+: "rdf:Description".toList ++
      attributesText [("rdf:about".toList, (Description.of group).subject)] := by
    have spaced : descriptionName = "rdf:Description".toList ++ [' '] := by decide
    rw [spaced, List.prefix_append_right_inj, ← List.append_nil (attributesText _),
      Xml.attributesText_cons]
    exact List.cons_prefix_cons.mpr ⟨rfl, List.nil_prefix⟩
  rwa [if_pos own] at whole

/-- A document has one tag for each subject, whatever its terms are. -/
theorem occurrences_documentText {triples : List Triple}
    (split : ∀ triple ∈ triples, named triple = true) :
    Text.occurrences descriptionTag (documentText ((Rdf.bySubject triples).map Description.of)) =
      (Rdf.bySubject triples).length := by
  have each : ∀ description ∈ (Rdf.bySubject triples).map Description.of,
      HasTags (indent 1 ++ description.text) 1 := by
    intro description member
    obtain ⟨group, listed, rfl⟩ := List.mem_map.mp member
    have own : ∀ triple ∈ group.2, named triple = true := fun triple inside =>
      split triple ((Rdf.mem_bySubject listed triple).mp inside).1
    have whole := (hasTags_indent 1).append (hasTags_description own)
    rwa [Nat.zero_add] at whole
  have front := @hasTags_tag "?xml version=\"1.0\" encoding=\"UTF-8\"?".toList (by decide)
  rw [if_neg (by decide)] at front
  have root := @hasTags_element "rdf:RDF".toList _ [("xmlns:rdf".toList, Vocabulary.rdf.toList)] _
    (by decide) (by simp) ((hasTags_flatMap each).append (hasTags_indent 0))
  rw [if_neg (by decide +kernel)] at root
  have whole := (((front.append (hasTags_indent 0)).append root).append (hasTags_indent 0)) []
  rw [List.append_nil] at whole
  have shape : declaration =
      '<' :: ("?xml version=\"1.0\" encoding=\"UTF-8\"?".toList ++ ['>']) := by decide
  rw [documentText, shape, whole]
  simp [Text.occurrences, descriptionTag]

/-- If a document is XML, its root has one element for each description, and no other. -/
theorem children_of_read {descriptions : List Description} {root : Xml.Node}
    (sound : ∀ description ∈ descriptions, description.Sound)
    (read : Xml.read? (documentText descriptions) = some root) :
    ∃ children, root = .element (ownName "RDF") [] children ∧
      (solid children).length = descriptions.length ∧
      ∀ child ∈ solid children, ∃ given inner,
        child = .element (ownName "Description") given inner := by
  rw [tree_documentText sound] at read
  split at read
  · obtain rfl := Option.some.inj read
    have filled (description : Description) : description.node.isBlank = false := rfl
    refine ⟨_, rfl, ?_, ?_⟩
    · rw [solid_lines filled, List.length_map, List.length_map]
    · rw [solid_lines filled]
      intro child member
      obtain ⟨description, -, rfl⟩ := List.mem_map.mp member
      exact ⟨_, _, rfl⟩
  · cases read

end RdfXml

end AnswerGraph
