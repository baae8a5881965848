import AnswerGraph.Proofs.TextSearch
import AnswerGraph.Proofs.XmlReader
import AnswerGraph.Rdf.Xml

/-!
How the parts of a written document are read. Values are escaped so that no character of theirs
ends them, and each part is read by itself: what follows it does not matter.
-/

namespace AnswerGraph

open RdfXml (escapeAttributeChar escapeTextChar attributeText elementText)

namespace Xml

/-! ## Escaped texts -/

theorem resolveFrom?_itself {c : Char} (plain : c ≠ '&') (rest : List Char) :
    resolveFrom? none (c :: rest) = (resolveFrom? none rest).map (c :: ·) := by
  rw [resolveFrom?]
  intro same
  exact absurd same plain

theorem resolveFrom?_entity {name : List Char} {c : Char} (stands : entity? name = some c)
    (short : ';' ∉ name) (rest : List Char) :
    resolveFrom? none ('&' :: (name ++ ';' :: rest)) = (resolveFrom? none rest).map (c :: ·) := by
  -- The name is collected backwards, so what was read of it before is generalized.
  have read (front back : List Char) (inside : ';' ∉ back) :
      resolveFrom? (some front) (back ++ ';' :: rest) =
        (entity? (front.reverse ++ back)).bind fun c =>
          (resolveFrom? none rest).map (c :: ·) := by
    induction back generalizing front with
    | nil => rw [List.nil_append, resolveFrom?, List.append_nil]
    | cons first back ih =>
      obtain ⟨apart, others⟩ := not_or.mp fun found => inside (List.mem_cons.mpr found)
      rw [List.cons_append, resolveFrom?, ih _ others, List.reverse_cons, List.append_assoc,
        List.singleton_append]
      intro same
      exact absurd same.symm apart
  rw [resolveFrom?, read [] name short, List.reverse_nil, List.nil_append, stands]
  rfl

/-- A text of which every character is read as it was written is read as a whole. -/
theorem resolveFrom?_written {write : Char → List Char} {text : List Char}
    (reads : ∀ c ∈ text, ∀ rest, resolveFrom? none (write c ++ rest) =
      (resolveFrom? none rest).map (c :: ·)) :
    resolveFrom? none (text.flatMap write) = some text := by
  induction text with
  | nil => rfl
  | cons c text ih =>
    rw [List.flatMap_cons, reads c List.mem_cons_self,
      ih fun other member => reads other (List.mem_cons_of_mem _ member)]
    rfl

/-- In an attribute quotation marks are escaped as well. -/
theorem escapeAttributeChar_eq (c : Char) :
    escapeAttributeChar c = if c = '"' then "&quot;".toList else escapeTextChar c := by
  rw [escapeAttributeChar, escapeTextChar]
  by_cases quote : c = '"'
  · subst c
    decide
  · rw [if_neg quote, if_neg quote]

theorem resolveFrom?_escapeTextChar (c : Char) (rest : List Char) :
    resolveFrom? none (escapeTextChar c ++ rest) = (resolveFrom? none rest).map (c :: ·) := by
  rw [escapeTextChar]
  split
  · subst c
    exact @resolveFrom?_entity "amp".toList _ rfl (by decide) rest
  split
  · subst c
    exact @resolveFrom?_entity "lt".toList _ rfl (by decide) rest
  split
  · subst c
    exact @resolveFrom?_entity "gt".toList _ rfl (by decide) rest
  · next plain _ _ => exact resolveFrom?_itself plain rest

theorem resolveFrom?_elementText (value : List Char) :
    resolveFrom? none (elementText value) = some value :=
  resolveFrom?_written fun c _ => resolveFrom?_escapeTextChar c

theorem resolveFrom?_attributeText (value : List Char) :
    resolveFrom? none (attributeText value) = some value := by
  apply resolveFrom?_written
  intro c _ rest
  rw [escapeAttributeChar_eq]
  split
  · subst c
    exact @resolveFrom?_entity "quot".toList _ rfl (by decide) rest
  · exact resolveFrom?_escapeTextChar c rest

/-- What holds of the characters of references and of a character unless it has to be escaped holds
of the character when it is escaped. -/
theorem forall_escapeTextChar {P : Char → Prop} {c : Char}
    (references : ∀ c ∈ "&;ampltgquo".toList, P c) (other : c ≠ '<' → c ≠ '>' → P c) :
    ∀ written ∈ escapeTextChar c, P written := by
  rw [escapeTextChar]
  intro written member
  split at member
  · exact references written ((by decide : "&amp;".toList ⊆ "&;ampltgquo".toList) member)
  split at member
  · exact references written ((by decide : "&lt;".toList ⊆ "&;ampltgquo".toList) member)
  split at member
  · exact references written ((by decide : "&gt;".toList ⊆ "&;ampltgquo".toList) member)
  · next _ notLess notGreater =>
    obtain rfl := List.mem_singleton.mp member
    exact other notLess notGreater

theorem forall_elementText {P : Char → Prop} {value : List Char}
    (references : ∀ c ∈ "&;ampltgquo".toList, P c)
    (others : ∀ c ∈ value, c ≠ '<' → c ≠ '>' → P c) : ∀ c ∈ elementText value, P c := by
  intro c member
  obtain ⟨own, inside, escaped⟩ := List.mem_flatMap.mp member
  exact forall_escapeTextChar references (others own inside) c escaped

theorem forall_attributeText {P : Char → Prop} {value : List Char}
    (references : ∀ c ∈ "&;ampltgquo".toList, P c)
    (others : ∀ c ∈ value, c ≠ '<' → c ≠ '>' → c ≠ '"' → P c) :
    ∀ c ∈ attributeText value, P c := by
  intro c member
  obtain ⟨own, inside, escaped⟩ := List.mem_flatMap.mp member
  rw [escapeAttributeChar_eq] at escaped
  split at escaped
  · exact references c ((by decide : "&quot;".toList ⊆ "&;ampltgquo".toList) escaped)
  · next notQuote =>
    exact forall_escapeTextChar references
      (fun notLess notGreater => others own inside notLess notGreater notQuote) c escaped

theorem content?_elementText (value : List Char) : content? (elementText value) = some value := by
  have closed : '>' ∉ elementText value := fun member =>
    forall_elementText (P := (· ≠ '>')) (Text.forall_of_all (by decide))
      (fun _ _ _ other => other) _ member rfl
  rw [content?, Text.contains_eq_false (by decide) closed]
  exact resolveFrom?_elementText value

/-- A text without space. -/
def Solid (text : List Char) : Prop := ∀ c ∈ text, isSpace c = false

theorem value?_attributeText {value : List Char} (solid : Solid value) :
    value? (attributeText value) = some value := by
  have noTag : '<' ∉ attributeText value := fun member =>
    forall_attributeText (P := (· ≠ '<')) (Text.forall_of_all (by decide))
      (fun _ _ other _ _ => other) _ member rfl
  have noSpace : ∀ c ∈ attributeText value, isSpace c = false :=
    forall_attributeText (Text.forall_of_all (by decide)) fun c member _ _ _ => solid c member
  have kept : (attributeText value).map (fun c => if isSpace c then ' ' else c) =
      attributeText value := by
    rw [List.map_congr_left fun c member => if_neg (Bool.eq_false_iff.mp (noSpace c member)),
      List.map_id']
  rw [value?, if_neg (by simpa using noTag), kept, resolveFrom?_attributeText]

/-! ## Ends of lines -/

theorem plainLines_of_other {c : Char} (other : c ≠ '\r') (rest : List Char) :
    plainLines (c :: rest) = c :: plainLines rest := by
  rw [plainLines]
  · intro _ same
    exact absurd same other
  · intro same
    exact absurd same other

theorem plainLines_return {rest : List Char} (alone : rest.head? ≠ some '\n') :
    plainLines ('\r' :: rest) = '\n' :: plainLines rest := by
  rw [plainLines]
  rintro more rfl
  exact alone rfl

theorem plainLines_append_of_returnless {front : List Char} (returnless : '\r' ∉ front)
    (rest : List Char) : plainLines (front ++ rest) = front ++ plainLines rest := by
  induction front with
  | nil => rfl
  | cons c front ih =>
    obtain ⟨apart, others⟩ := not_or.mp fun found => returnless (List.mem_cons.mpr found)
    rw [List.cons_append, plainLines_of_other (Ne.symm apart), ih others, List.cons_append]

theorem plainLines_of_returnless {text : List Char} (returnless : '\r' ∉ text) :
    plainLines text = text := by
  have whole := plainLines_append_of_returnless returnless []
  rwa [List.append_nil, plainLines, List.append_nil] at whole

/-- A text may be cut before anything but a line feed. -/
theorem plainLines_append {front rest : List Char} (cut : rest.head? ≠ some '\n') :
    plainLines (front ++ rest) = plainLines front ++ plainLines rest := by
  fun_induction plainLines front with
  | case1 more ih => rw [List.cons_append, List.cons_append, plainLines, ih, List.cons_append]
  | case2 more other ih =>
    -- A carriage return at the end of the front stays alone, as no line feed is behind it.
    rw [List.cons_append, plainLines_return, ih, List.cons_append]
    cases more with
    | nil => exact cut
    | cons c more =>
      intro same
      obtain rfl := Option.some.inj same
      exact other more rfl
  | case3 c more _ other ih =>
    rw [List.cons_append, plainLines_of_other, ih, List.cons_append]
    rintro rfl
    exact other rfl
  | case4 => rfl

theorem returnless_plainLines (text : List Char) : '\r' ∉ plainLines text := by
  fun_induction plainLines text with
  | case1 more ih => simpa using ih
  | case2 more _ ih => simpa using ih
  | case3 c more _ other ih =>
    intro member
    rcases List.mem_cons.mp member with same | later
    · exact other same.symm
    · exact ih later
  | case4 => exact List.not_mem_nil

theorem plainLines_eq_self_iff {text : List Char} : plainLines text = text ↔ '\r' ∉ text := by
  constructor
  · intro same
    rw [← same]
    exact returnless_plainLines text
  · exact plainLines_of_returnless

theorem elementText_cons (c : Char) (rest : List Char) :
    elementText (c :: rest) = escapeTextChar c ++ elementText rest :=
  List.flatMap_cons

/-- An escaped character is itself or starts with an ampersand, and has no carriage return. -/
theorem escapeTextChar_cases (c : Char) :
    escapeTextChar c = [c] ∨ (escapeTextChar c).head? = some '&' ∧ '\r' ∉ escapeTextChar c := by
  rw [escapeTextChar]
  split
  · exact .inr (by decide)
  split
  · exact .inr (by decide)
  split
  · exact .inr (by decide)
  · exact .inl rfl

theorem head?_elementText {value : List Char} (other : value.head? ≠ some '\n') :
    (elementText value).head? ≠ some '\n' := by
  cases value with
  | nil => simp [elementText]
  | cons c rest =>
    rw [elementText_cons]
    rcases escapeTextChar_cases c with itself | ⟨reference, -⟩
    · rw [itself]
      exact other
    · rw [List.head?_append, reference]
      simp

theorem elementText_eq_nil_iff {value : List Char} : elementText value = [] ↔ value = [] := by
  cases value with
  | nil => exact Iff.rfl
  | cons c rest =>
    rw [elementText_cons, List.append_eq_nil_iff]
    rcases escapeTextChar_cases c with itself | ⟨reference, -⟩
    · simp [itself]
    · cases written : escapeTextChar c with
      | nil =>
        rw [written] at reference
        cases reference
      | cons first more => simp

/-- Lines end alike whether characters are escaped before or after. -/
theorem plainLines_elementText (value : List Char) :
    plainLines (elementText value) = elementText (plainLines value) := by
  fun_induction plainLines value with
  | case1 more ih =>
    have escaped : elementText ('\r' :: '\n' :: more) = '\r' :: '\n' :: elementText more := rfl
    rw [escaped, plainLines, ih]
    rfl
  | case2 more other ih =>
    have escaped : elementText ('\r' :: more) = '\r' :: elementText more := rfl
    have alone : more.head? ≠ some '\n' := by
      intro starts
      obtain ⟨rest, rfl⟩ := List.head?_eq_some_iff.mp starts
      exact other rest rfl
    rw [escaped, plainLines_return (head?_elementText alone), ih]
    rfl
  | case3 c more _ other ih =>
    have returnless : '\r' ∉ escapeTextChar c := by
      rcases escapeTextChar_cases c with itself | ⟨-, returnless⟩
      · rw [itself, List.mem_singleton]
        exact fun same => other same.symm
      · exact returnless
    rw [elementText_cons, plainLines_append_of_returnless returnless, ih, elementText_cons]
  | case4 => rfl

/-- Up to the ends of its lines a text is another, whatever follows. -/
def EndsAs (text lines : List Char) : Prop :=
  ∀ rest, plainLines (text ++ rest) = lines ++ plainLines rest

theorem endsAs_of_returnless {text : List Char} (returnless : '\r' ∉ text) : EndsAs text text :=
  plainLines_append_of_returnless returnless

theorem EndsAs.append {text lines more others : List Char} (front : EndsAs text lines)
    (back : EndsAs more others) : EndsAs (text ++ more) (lines ++ others) := by
  intro rest
  rw [List.append_assoc, front, back, List.append_assoc]

theorem endsAs_flatMap {text lines : α → List Char} {items : List α}
    (alike : ∀ item ∈ items, EndsAs (text item) (lines item)) :
    EndsAs (items.flatMap text) (items.flatMap lines) := by
  induction items with
  | nil => exact fun _ => rfl
  | cons item rest ih =>
    rw [List.flatMap_cons, List.flatMap_cons]
    exact (alike item List.mem_cons_self).append
      (ih fun other member => alike other (List.mem_cons_of_mem _ member))

theorem Solid.returnless {text : List Char} (solid : Solid text) : '\r' ∉ text := by
  intro member
  exact absurd (solid _ member) (by decide)

/-! ## Tags -/

theorem attribute?_written {tag value : List Char} (plain : ∀ c ∈ tag, isTagChar c = true)
    (solid : Solid value) (rest : List Char) :
    attribute? (tag ++ '=' :: '"' :: (attributeText value ++ '"' :: rest)) =
      some ((tag, value), rest) := by
  have noQuote : '"' ∉ attributeText value := fun member =>
    forall_attributeText (P := (· ≠ '"')) (Text.forall_of_all (by decide))
      (fun _ _ _ _ other => other) _ member rfl
  have behind : List.dropWhile isTagChar
      (tag ++ '=' :: '"' :: (attributeText value ++ '"' :: rest)) =
      '=' :: '"' :: (attributeText value ++ '"' :: rest) := by
    rw [List.dropWhile_append_of_pos plain]
    rfl
  have front : List.takeWhile isTagChar
      (tag ++ '=' :: '"' :: (attributeText value ++ '"' :: rest)) = tag := by
    rw [List.takeWhile_append_of_pos plain]
    simp [show isTagChar '=' = false by decide]
  have cut := Text.cutAtChar?_eq_some noQuote rest
  simp [attribute?, behind, front, show isSpace '=' = false by decide,
    show isSpace '"' = false by decide, cut, value?_attributeText solid]

/-- What stands behind the space in a tag decides how the tag goes on. -/
theorem attributes?_eq (text : List Char) :
    attributes? text =
      match text.dropWhile isSpace with
      | '>' :: rest => some (([], false), rest)
      | '/' :: '>' :: rest => some (([], true), rest)
      | _ =>
        if (text.takeWhile isSpace).isEmpty then none
        else (attribute? (text.dropWhile isSpace)).bind fun (given, behind) =>
          (attributes? behind).map fun ((more, closed), after) =>
            ((given :: more, closed), after) := by
  rw [attributes?.eq_def]
  split
  · next found => simp only [found]
  · next found => simp only [found]
  · simp only
    split
    · rfl
    · split
      · next missing => rw [missing, Option.bind_none]
      · next found => simp only [found, Option.bind_some]

/-- Where a tag neither ends nor is closed there has to be space and an attribute. -/
theorem attributes?_of_solid {text : List Char} {c : Char} {rest : List Char}
    (next : text.dropWhile isSpace = c :: rest) (noEnd : c ≠ '>') (noClosing : c ≠ '/') :
    attributes? text =
      if (text.takeWhile isSpace).isEmpty then none
      else (attribute? (c :: rest)).bind fun (given, behind) =>
        (attributes? behind).map fun ((more, closed), after) =>
          ((given :: more, closed), after) := by
  rw [attributes?_eq, next]
  split
  · next found => exact absurd (List.cons.inj found).1 noEnd
  · next found => exact absurd (List.cons.inj found).1 noClosing
  · rfl

/-- An attribute is read before what follows it. -/
theorem attributes?_written {tag value : List Char} (filled : tag ≠ [])
    (plain : ∀ c ∈ tag, isTagChar c = true) (solid : Solid value) (rest : List Char) :
    attributes? (' ' :: (tag ++ '=' :: '"' :: (attributeText value ++ '"' :: rest))) =
      (attributes? rest).map fun ((more, closed), after) =>
        (((tag, value) :: more, closed), after) := by
  have read := attribute?_written plain solid rest
  obtain ⟨first, others, rfl⟩ := List.exists_cons_of_ne_nil filled
  have own := plain first List.mem_cons_self
  have apart {c : Char} (other : isTagChar c = false) : first ≠ c := by
    rintro rfl
    rw [own] at other
    cases other
  have noSpace : isSpace first = false := by
    simp [isSpace, apart (by decide : isTagChar ' ' = false),
      apart (by decide : isTagChar '\t' = false), apart (by decide : isTagChar '\n' = false),
      apart (by decide : isTagChar '\r' = false)]
  have space : isSpace ' ' = true := by decide
  rw [List.cons_append] at read ⊢
  rw [attributes?_of_solid _ (apart (by decide)) (apart (by decide)), read]
  · simp [space]
  · simp [space, noSpace]

theorem attributes?_end (rest : List Char) :
    attributes? ('>' :: rest) = some (([], false), rest) :=
  attributes?_eq _

theorem attributes?_closed (rest : List Char) :
    attributes? ('/' :: '>' :: rest) = some (([], true), rest) :=
  attributes?_eq _

/-- A name cannot be followed directly by an attribute. -/
theorem attributes?_stuck {c : Char} (solid : isSpace c = false) (noEnd : c ≠ '>')
    (noClosing : c ≠ '/') (rest : List Char) : attributes? (c :: rest) = none := by
  rw [attributes?_of_solid (List.dropWhile_cons_of_neg (Bool.eq_false_iff.mp solid)) noEnd
    noClosing]
  simp [solid]

/-! ## Reading on -/

namespace Progress

variable {progress : Progress} {raw content tag text rest : List Char}

theorem readAll?_nil : progress.readAll? [] = some progress := by
  rw [readAll?]

theorem readAll?_cons (first : Char) (rest : List Char) :
    progress.readAll? (first :: rest) = (nextToken? first rest).bind fun (token, after) =>
      (progress.grow? token).bind fun next => next.readAll? after := by
  rw [readAll?]
  split
  · next missing => rw [missing, Option.bind_none]
  · next found => simp only [found, Option.bind_some]

/-- A text ends where a tag starts, or with the document. -/
theorem readAll?_text (filled : raw ≠ []) (noTag : '<' ∉ raw)
    (stands : content? raw = some content) (ends : ∀ c ∈ rest.head?, c = '<') :
    progress.readAll? (raw ++ rest) = (progress.add (.text content)).readAll? rest := by
  obtain ⟨first, more, rfl⟩ := List.exists_cons_of_ne_nil filled
  obtain ⟨notLess, others⟩ := not_or.mp fun found => noTag (List.mem_cons.mpr found)
  have inside : ∀ c ∈ more, (c != '<') = true := by
    intro c member
    rw [bne_iff_ne]
    rintro rfl
    exact others member
  have stops : rest.takeWhile (· != '<') = [] ∧ rest.dropWhile (· != '<') = rest := by
    cases rest with
    | nil => exact ⟨rfl, rfl⟩
    | cons c rest =>
      obtain rfl := ends c rfl
      exact ⟨rfl, rfl⟩
  have read : nextToken? first (more ++ rest) = some (.text content, rest) := by
    unfold nextToken?
    rw [if_neg (Ne.symm notLess), List.takeWhile_append_of_pos inside,
      List.dropWhile_append_of_pos inside, stops.1, stops.2, List.append_nil, stands]
    rfl
  rw [List.cons_append, readAll?_cons, read]
  rfl

theorem readAll?_closing (plain : ∀ c ∈ tag, isTagChar c = true) :
    progress.readAll? ('<' :: '/' :: (tag ++ '>' :: rest)) =
      (progress.grow? (.closing tag)).bind fun next => next.readAll? rest := by
  have read : nextToken? '<' ('/' :: (tag ++ '>' :: rest)) = some (.closing tag, rest) := by
    have noTag : isTagChar '>' = false := by decide
    have solid : isSpace '>' = false := by decide
    simp [nextToken?, List.dropWhile_append_of_pos plain, List.takeWhile_append_of_pos plain, noTag,
      solid]
  rw [readAll?_cons, read]
  rfl

/-- The name of a tag ends with the first character that no name has. -/
theorem readAll?_opening (notClosing : (tag ++ text).head? ≠ some '/')
    (plain : ∀ c ∈ tag, isTagChar c = true) (stops : ∀ c ∈ text.head?, isTagChar c = false) :
    progress.readAll? ('<' :: (tag ++ text)) =
      (attributes? text).bind fun ((attributes, closed), rest) =>
        (progress.grow? (.opening tag attributes closed)).bind fun next => next.readAll? rest := by
  have front : (tag ++ text).takeWhile isTagChar = tag := by
    rw [List.takeWhile_append_of_pos plain]
    cases text with
    | nil => simp
    | cons c text => simp [stops c rfl]
  have behind : (tag ++ text).dropWhile isTagChar = text := by
    rw [List.dropWhile_append_of_pos plain]
    cases text with
    | nil => rfl
    | cons c text => simp [stops c rfl]
  have read : nextToken? '<' (tag ++ text) =
      (attributes? text).map fun ((attributes, closed), after) =>
        (.opening tag attributes closed, after) := by
    unfold nextToken?
    rw [if_pos rfl]
    split
    · next same =>
      rw [same] at notClosing
      exact absurd rfl notClosing
    · rw [front, behind]
  rw [readAll?_cons, read]
  cases attributes? text <;> rfl

end Progress

end Xml

end AnswerGraph
