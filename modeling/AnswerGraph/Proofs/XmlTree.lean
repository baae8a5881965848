import AnswerGraph.Proofs.XmlText
import Mathlib.Data.List.TakeWhile

/-!
The nodes that written elements are read as. An element is read by itself: in a given scope it
always adds the same nodes to the open element, or reading fails.
-/

namespace AnswerGraph

open RdfXml (attributeText)

namespace Xml

/-! ## Written elements -/

def attributesText (given : Attributes) : List Char :=
  given.flatMap fun (tag, value) => ' ' :: (tag ++ '=' :: '"' :: (attributeText value ++ ['"']))

/-- An element that is closed with its tag. -/
def closedElement (tag : List Char) (given : Attributes) : List Char :=
  '<' :: (tag ++ attributesText given ++ ['/', '>'])

def element (tag : List Char) (given : Attributes) (body : List Char) : List Char :=
  '<' :: (tag ++ attributesText given ++ '>' :: (body ++ '<' :: '/' :: (tag ++ ['>'])))

theorem attributesText_cons (tag value : List Char) (more : Attributes) (rest : List Char) :
    attributesText ((tag, value) :: more) ++ rest =
      ' ' :: (tag ++ '=' :: '"' ::
        (attributeText value ++ '"' :: (attributesText more ++ rest))) := by
  simp [attributesText]

/-- Attributes that can be written: their names are not empty, and their values have no space. -/
def Writable (given : Attributes) : Prop :=
  ∀ entry ∈ given, entry.1 ≠ [] ∧ (∀ c ∈ entry.1, isTagChar c = true) ∧ Solid entry.2

theorem writable_nil : Writable [] :=
  List.forall_mem_nil _

theorem Writable.cons {tag value : List Char} {more : Attributes} (filled : tag ≠ [])
    (plain : ∀ c ∈ tag, isTagChar c = true) (solid : Solid value) (others : Writable more) :
    Writable ((tag, value) :: more) :=
  List.forall_mem_cons.mpr ⟨⟨filled, plain, solid⟩, others⟩

theorem Writable.returnless {given : Attributes} (writable : Writable given) :
    '\r' ∉ attributesText given := by
  intro member
  obtain ⟨⟨tag, value⟩, inside, own⟩ := List.mem_flatMap.mp member
  obtain ⟨-, plain, solid⟩ := writable _ inside
  have noTag : '\r' ∉ tag := fun member => absurd (plain _ member) (by decide)
  have escaped : '\r' ∉ attributeText value := fun member =>
    forall_attributeText (P := (· ≠ '\r')) (Text.forall_of_all (by decide))
      (fun _ inner _ _ _ same => solid.returnless (same ▸ inner)) _ member rfl
  simp [noTag, escaped] at own

theorem endsAs_closedElement {tag : List Char} {given : Attributes} (noTag : '\r' ∉ tag)
    (writable : Writable given) : EndsAs (closedElement tag given) (closedElement tag given) := by
  apply endsAs_of_returnless
  simp [closedElement, noTag, writable.returnless]

/-- The lines of an element end as those between its tags do. -/
theorem endsAs_element {tag body lines : List Char} {given : Attributes} (noTag : '\r' ∉ tag)
    (writable : Writable given)
    (inside : ∀ rest, plainLines (body ++ '<' :: rest) = lines ++ plainLines ('<' :: rest)) :
    EndsAs (element tag given body) (element tag given lines) := by
  intro rest
  have front : '\r' ∉ '<' :: (tag ++ attributesText given ++ ['>']) := by
    simp [noTag, writable.returnless]
  have back : '\r' ∉ '<' :: '/' :: (tag ++ ['>']) := by
    simp [noTag]
  have behind : plainLines ('<' :: ('/' :: (tag ++ ['>']) ++ rest)) =
      '<' :: '/' :: (tag ++ ['>']) ++ plainLines rest :=
    plainLines_append_of_returnless back rest
  have whole (between : List Char) : element tag given between ++ rest =
      '<' :: (tag ++ attributesText given ++ ['>']) ++
        (between ++ '<' :: ('/' :: (tag ++ ['>']) ++ rest)) := by
    simp [element]
  rw [whole, plainLines_append_of_returnless front, inside, behind]
  simp [element]

theorem attributes?_attributesText {given : Attributes} (writable : Writable given) {closed : Bool}
    {ends after : List Char} (stops : attributes? ends = some (([], closed), after)) :
    attributes? (attributesText given ++ ends) = some ((given, closed), after) := by
  induction given with
  | nil => exact stops
  | cons entry more ih =>
    obtain ⟨tag, value⟩ := entry
    obtain ⟨filled, plain, solid⟩ := writable _ List.mem_cons_self
    rw [attributesText_cons, attributes?_written filled plain solid,
      ih fun other member => writable other (List.mem_cons_of_mem _ member)]
    rfl

namespace Progress

/-- What has been read when some nodes follow. -/
def addAll (progress : Progress) (nodes : List Node) : Progress :=
  nodes.foldl add progress

@[simp] theorem scope_add (progress : Progress) (node : Node) :
    (progress.add node).scope = progress.scope := by
  obtain ⟨opened, roots⟩ := progress
  cases opened <;> rfl

@[simp] theorem scope_addAll (progress : Progress) (nodes : List Node) :
    (progress.addAll nodes).scope = progress.scope := by
  induction nodes generalizing progress with
  | nil => rfl
  | cons node rest ih => exact (ih (progress.add node)).trans (scope_add progress node)

theorem addAll_append (progress : Progress) (nodes more : List Node) :
    progress.addAll (nodes ++ more) = (progress.addAll nodes).addAll more :=
  List.foldl_append

/-- Nodes that follow belong to the innermost open element. -/
theorem addAll_opened (frame : Frame) (outer : List Frame) (roots nodes : List Node) :
    addAll ⟨frame :: outer, roots⟩ nodes =
      ⟨{ frame with children := frame.children ++ nodes } :: outer, roots⟩ := by
  induction nodes generalizing frame with
  | nil => simp [addAll]
  | cons node rest ih =>
    have next := ih { frame with children := frame.children ++ [node] }
    rw [List.append_assoc, List.singleton_append] at next
    exact next

/-- What a tag opens, from what is declared and from the names of the tag and its attributes. -/
theorem frame?_eq_some {progress : Progress} {tag : List Char} {given : Attributes} {inner : Scope}
    {name : Name} {own : List (Name × List Char)}
    (declares : declare? progress.scope given = some inner)
    (named : elementName? inner tag = some name)
    (others : ((given.filter fun (tag, _) => (declared? tag).isNone).mapM fun (tag, value) =>
      (attributeName? inner tag).map (·, value)) = some own)
    (distinct : (given.map (·.1)).Nodup ∧ (own.map (·.1)).Nodup) :
    progress.frame? tag given = some { tag, name, attributes := own, scope := inner } := by
  rw [frame?, declares]
  simp only [Option.bind_eq_bind, Option.bind_some, named, others, if_pos distinct]

end Progress

/-! ## Texts that are read as nodes -/

/-- In a scope, a text is read as some nodes whatever follows, or cannot be read. -/
def ReadsAs (scope : Scope) (text : List Char) (nodes? : Option (List Node)) : Prop :=
  ∀ progress : Progress, progress.scope = scope → ∀ rest, progress.readAll? (text ++ rest) =
    nodes?.bind fun nodes => (progress.addAll nodes).readAll? rest

/-- The nodes of what an element says besides its elements: none if it says nothing. -/
def textNodes (content : List Char) : List Node :=
  if content = [] then [] else [.text content]

section Reading

variable {scope : Scope} {tag raw content : List Char} {given : Attributes}

theorem readsAs_nil : ReadsAs scope [] (some []) :=
  fun _ _ _ => rfl

theorem ReadsAs.append {first second : List Char} {nodes more : Option (List Node)}
    (front : ReadsAs scope first nodes) (back : ReadsAs scope second more) :
    ReadsAs scope (first ++ second) (nodes.bind fun nodes => more.map (nodes ++ ·)) := by
  intro progress within rest
  rw [List.append_assoc, front progress within]
  cases nodes with
  | none => rfl
  | some nodes =>
    simp only [Option.bind_some]
    rw [back _ ((Progress.scope_addAll _ _).trans within)]
    cases more with
    | none => rfl
    | some more =>
      simp only [Option.bind_some, Option.map_some]
      rw [Progress.addAll_append]

/-- A text in front of a tag is a node, if there is any text. -/
theorem readAll?_textNodes {progress : Progress} {rest : List Char} (noTag : '<' ∉ raw)
    (stands : content? raw = some content) (same : raw = [] ↔ content = [])
    (ends : ∀ c ∈ rest.head?, c = '<') :
    progress.readAll? (raw ++ rest) = (progress.addAll (textNodes content)).readAll? rest := by
  by_cases filled : raw = []
  · rw [filled, textNodes, if_pos (same.mp filled)]
    rfl
  · rw [Progress.readAll?_text filled noTag stands ends, textNodes,
      if_neg fun none => filled (same.mpr none)]
    rfl

theorem ReadsAs.indented {text indent : List Char} {readable : Bool} {node : Node}
    (reads : ReadsAs scope text (if readable then some [node] else none))
    (starts : text.head? = some '<') (filled : indent ≠ []) (noTag : '<' ∉ indent)
    (stands : content? indent = some indent) :
    ReadsAs scope (indent ++ text) (if readable then some [.text indent, node] else none) := by
  intro progress within rest
  have ends : ∀ c ∈ (text ++ rest).head?, c = '<' := by
    intro c first
    rw [List.head?_append, starts] at first
    exact (Option.some.inj first).symm
  rw [List.append_assoc, Progress.readAll?_text filled noTag stands ends,
    reads _ ((Progress.scope_add _ _).trans within)]
  cases readable <;> rfl

/-- Texts in a row are read one by one, and all of them have to be readable. -/
theorem readsAs_flatMap {text : α → List Char} {readable : α → Bool} {nodes : α → List Node}
    {items : List α} (reads : ∀ item ∈ items,
      ReadsAs scope (text item) (if readable item then some (nodes item) else none)) :
    ReadsAs scope (items.flatMap text)
      (if items.all readable then some (items.flatMap nodes) else none) := by
  induction items with
  | nil => exact readsAs_nil
  | cons item rest ih =>
    have front := reads item List.mem_cons_self
    have back := ih fun other member => reads other (List.mem_cons_of_mem _ member)
    have whole := front.append back
    rw [List.flatMap_cons, List.flatMap_cons, List.all_cons]
    cases own : readable item with
    | false => simpa [own] using whole
    | true =>
      cases others : rest.all readable with
      | false => simpa [own, others] using whole
      | true => simpa [own, others] using whole

/-! ## Tags in front of what follows -/

theorem head?_tag {more : List Char} (plain : ∀ c ∈ tag, isTagChar c = true)
    (other : more.head? ≠ some '/') : (tag ++ more).head? ≠ some '/' := by
  cases tag with
  | nil => exact other
  | cons c tag =>
    intro same
    obtain rfl : c = '/' := Option.some.inj same
    exact absurd (plain '/' List.mem_cons_self) (by decide)

/-- A tag with attributes is one token. -/
theorem readAll?_tag (progress : Progress) {closed : Bool} {ends after : List Char}
    (plain : ∀ c ∈ tag, isTagChar c = true) (writable : Writable given) (some? : given ≠ [])
    (stops : attributes? ends = some (([], closed), after)) :
    progress.readAll? ('<' :: (tag ++ attributesText given ++ ends)) =
      (progress.grow? (.opening tag given closed)).bind fun next => next.readAll? after := by
  have starts : (attributesText given ++ ends).head? = some ' ' := by
    obtain ⟨⟨first, value⟩, more, rfl⟩ := List.exists_cons_of_ne_nil some?
    rw [attributesText_cons]
    rfl
  have notClosing : (tag ++ (attributesText given ++ ends)).head? ≠ some '/' :=
    head?_tag plain (by simp [starts])
  have stopped : ∀ c ∈ (attributesText given ++ ends).head?, isTagChar c = false := by
    intro c first
    rw [starts] at first
    obtain rfl := Option.some.inj first
    decide
  rw [List.append_assoc, Progress.readAll?_opening notClosing plain stopped,
    attributes?_attributesText writable stops]
  rfl

/-- An element whose tag is refused is not read. -/
theorem readsAs_refused {closed : Bool} {ends : List Char}
    (plain : ∀ c ∈ tag, isTagChar c = true) (writable : Writable given) (some? : given ≠ [])
    (stops : ∀ rest, ∃ after, attributes? (ends ++ rest) = some (([], closed), after))
    (refused : ∀ progress : Progress, progress.scope = scope → progress.frame? tag given = none) :
    ReadsAs scope ('<' :: (tag ++ attributesText given ++ ends)) none := by
  intro progress within rest
  obtain ⟨after, found⟩ := stops rest
  rw [List.cons_append, List.append_assoc, readAll?_tag progress plain writable some? found]
  simp [Progress.grow?, refused progress within]

/-- A name that holds what no name can hold ends too early, and no tag goes on like that. -/
theorem readsAs_broken {name : List Char} {c : Char} (member : c ∈ name)
    (other : isTagChar c = false)
    (solid : ∀ c ∈ name, isSpace c = false ∧ c ≠ '>' ∧ c ≠ '/') (more : List Char) :
    ReadsAs scope ('<' :: (name ++ more)) none := by
  intro progress _ rest
  -- The tag stops at the first character that no name has. That is neither space nor an end, so
  -- that no attribute can start there.
  have broken : name.dropWhile isTagChar ≠ [] := by
    intro whole
    rw [List.dropWhile_eq_nil_iff] at whole
    exact absurd (whole c member) (Bool.eq_false_iff.mp other)
  obtain ⟨first, others, cut⟩ := List.exists_cons_of_ne_nil broken
  have stops : isTagChar first = false := by
    have head := List.head_dropWhile_not isTagChar broken
    simpa [cut] using head
  have inside : first ∈ name :=
    (List.dropWhile_suffix isTagChar).subset (cut ▸ List.mem_cons_self)
  obtain ⟨noSpace, noEnd, noClosing⟩ := solid first inside
  have whole : name ++ more ++ rest =
      name.takeWhile isTagChar ++ first :: (others ++ (more ++ rest)) := by
    rw [← List.cons_append, ← cut, ← List.append_assoc, List.takeWhile_append_dropWhile,
      List.append_assoc]
  have plain : ∀ c ∈ name.takeWhile isTagChar, isTagChar c = true :=
    fun _ => List.mem_takeWhile_imp
  have notClosing : (name.takeWhile isTagChar ++ first :: (others ++ (more ++ rest))).head? ≠
      some '/' := head?_tag plain fun same => noClosing (Option.some.inj same)
  rw [List.cons_append, whole, Progress.readAll?_opening notClosing plain
    (fun c same => Option.some.inj same ▸ stops), attributes?_stuck noSpace noEnd noClosing]
  rfl

/-! ## Elements -/

variable {name : Name} {attributes : List (Name × List Char)} {inner : Scope}

theorem readsAs_closedElement (plain : ∀ c ∈ tag, isTagChar c = true) (writable : Writable given)
    (some? : given ≠ []) (opens : ∀ progress : Progress, progress.scope = scope →
      progress.frame? tag given = some { tag, name, attributes, scope := inner }) :
    ReadsAs scope (closedElement tag given) (some [.element name attributes []]) := by
  intro progress within rest
  have read := readAll?_tag progress plain writable some? (attributes?_closed rest)
  have whole : closedElement tag given ++ rest =
      '<' :: (tag ++ attributesText given ++ '/' :: '>' :: rest) := by
    simp [closedElement]
  rw [whole, read]
  simp [Progress.grow?, opens progress within, Progress.addAll, Frame.node]

/-- An element holds what is read between its tags: nodes, and a text behind them. -/
theorem readsAs_element (plain : ∀ c ∈ tag, isTagChar c = true) (writable : Writable given)
    (some? : given ≠ []) (opens : ∀ progress : Progress, progress.scope = scope →
      progress.frame? tag given = some { tag, name, attributes, scope := inner })
    {body : List Char} {readable : Bool} {nodes : List Node}
    (reads : ReadsAs inner body (if readable then some nodes else none))
    (noTag : '<' ∉ raw) (stands : content? raw = some content) (same : raw = [] ↔ content = []) :
    ReadsAs scope (element tag given (body ++ raw)) (if readable then
      some [.element name attributes (nodes ++ textNodes content)] else none) := by
  intro progress within rest
  -- The tag opens a frame, what is inside fills it, and the end tag turns it into a node.
  have opened := readAll?_tag progress plain writable some?
    (attributes?_end (body ++ (raw ++ '<' :: '/' :: (tag ++ '>' :: rest))))
  have whole : element tag given (body ++ raw) ++ rest = '<' :: (tag ++ attributesText given ++
      '>' :: (body ++ (raw ++ '<' :: '/' :: (tag ++ '>' :: rest)))) := by
    simp [element]
  rw [whole, opened]
  simp only [Progress.grow?, opens progress within, Option.map_some, Option.bind_some,
    Bool.false_eq_true, if_false]
  rw [reads ⟨{ tag, name, attributes, scope := inner } :: progress.opened, progress.roots⟩ rfl]
  cases readable with
  | false => rfl
  | true =>
    simp only [if_true, Option.bind_some]
    rw [readAll?_textNodes noTag stands same (by simp), ← Progress.addAll_append,
      Progress.addAll_opened, Progress.readAll?_closing plain]
    simp [Progress.grow?, Progress.addAll, Frame.node]

end Reading

end Xml

end AnswerGraph
