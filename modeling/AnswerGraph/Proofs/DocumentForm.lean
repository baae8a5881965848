import AnswerGraph.Answer.Document
import AnswerGraph.Proofs.JsonText
import AnswerGraph.Template.Document
import Mathlib.Data.List.Forall2
import Mathlib.Data.List.Nodup

/-!
Documents that no reader tells apart. A JSON text and the value that it holds make different
documents: the members of a record stand in the order written or in the order of their names. What
is read from a record is looked up by name, so as long as no name is repeated the readers of
answers and templates find the same in both.
-/

namespace AnswerGraph

namespace Document

/-- No record repeats a name. -/
inductive Distinct : Document → Prop
  | scalar {value : Scalar} : Distinct (.scalar value)
  | list {positional : Bool} {items : List Document} (each : ∀ item ∈ items, Distinct item) :
      Distinct (.list positional items)
  | record {choice : Option String} {members : List (Option String × Document)}
      (names : (members.map (·.1)).Nodup) (each : ∀ member ∈ members, Distinct member.2) :
      Distinct (.record choice members)

/-- Members whose names are texts. -/
def named (members : List (String × Document)) : List (Option String × Document) :=
  members.map fun (name, value) => (some name, value)

/-- The documents have the same scalars and items, and records of them the same names with such
documents, in any order. -/
inductive Alike : Document → Document → Prop
  | scalar (value : Scalar) : Alike (.scalar value) (.scalar value)
  | list {positional : Bool} {items others : List Document}
      (each : List.Forall₂ Alike items others) :
      Alike (.list positional items) (.list positional others)
  | record {choice otherChoice : Option String} {members others : List (String × Document)}
      (partner : String → Document) (names : (members.map (·.1)).Nodup)
      (otherNames : (others.map (·.1)).Nodup)
      (found : ∀ member ∈ members, (member.1, partner member.1) ∈ others)
      (each : ∀ member ∈ members, Alike member.2 (partner member.1))
      (covered : ∀ member ∈ others, member.1 ∈ members.map (·.1)) :
      Alike (.record choice (named members)) (.record otherChoice (named others))

/-! ## Slots of a record -/

/-- What is said about a field in documents that are alike. -/
inductive Slot.Alike : Slot → Slot → Prop
  | given {value other : Document} (alike : Document.Alike value other) :
      Slot.Alike (.given value) (.given other)
  | absent : Slot.Alike .absent .absent
  | cutOff : Slot.Alike .cutOff .cutOff

theorem filter_name {members : List (String × Document)} (names : (members.map (·.1)).Nodup)
    (name : String) :
    members.filter (·.1 == name) = ((members.lookup name).map (name, ·)).toList := by
  induction members with
  | nil => rfl
  | cons member rest ih =>
    obtain ⟨first, value⟩ := member
    obtain ⟨fresh, others⟩ := List.nodup_cons.mp names
    by_cases same : name = first
    · subst first
      have none : rest.filter (·.1 == name) = [] := by
        rw [List.filter_eq_nil_iff]
        intro member listed
        rw [beq_iff_eq]
        intro equal
        exact fresh (List.mem_map.mpr ⟨member, listed, equal⟩)
      rw [List.filter_cons_of_pos (by simp), none, List.lookup_cons_self]
      rfl
    · have unequal : (name == first) = false := beq_eq_false_iff_ne.mpr same
      rw [List.filter_cons_of_neg (by simpa using Ne.symm same), ih others, List.lookup_cons,
        unequal]

/-- The slot of a name that is not repeated is what the name is looked up to. -/
theorem slotOf?_eq {members : List (String × Document)} (names : (members.map (·.1)).Nodup)
    (name : String) : slotOf? name members = some ((members.lookup name).elim .absent .given) := by
  rw [slotOf?, filter_name names]
  cases members.lookup name <;> rfl

theorem slotOf?_alike {members others : List (String × Document)} {partner : String → Document}
    (names : (members.map (·.1)).Nodup) (otherNames : (others.map (·.1)).Nodup)
    (found : ∀ member ∈ members, (member.1, partner member.1) ∈ others)
    (each : ∀ member ∈ members, Alike member.2 (partner member.1))
    (covered : ∀ member ∈ others, member.1 ∈ members.map (·.1)) (name : String) :
    ∃ first second, slotOf? name members = some first ∧ slotOf? name others = some second ∧
      Slot.Alike first second := by
  refine ⟨_, _, slotOf?_eq names name, slotOf?_eq otherNames name, ?_⟩
  cases present : members.lookup name with
  | some value =>
    have member := Keyed.mem_of_lookup present
    rw [Keyed.lookup_of_mem_distinct otherNames (found _ member)]
    exact .given (each _ member)
  | none =>
    have missing : others.lookup name = none := by
      rw [List.lookup_eq_none_iff]
      intro member listed
      rw [bne_iff_ne]
      rintro rfl
      obtain ⟨own, held, same⟩ := List.mem_map.mp (covered member listed)
      exact bne_iff_ne.mp (List.lookup_eq_none_iff.mp present own held) same.symm
    rw [missing]
    exact .absent

theorem mapM_named (members : List (String × Document)) :
    (named members).mapM (fun (name, value) => name.map (·, value)) = some members := by
  induction members with
  | nil => rfl
  | cons member rest ih =>
    rw [named, List.map_cons, List.mapM_cons, ← named, ih]
    rfl

/-- A record without repeated names is searched for each of the fields. -/
theorem slots?_named {members : List (String × Document)} (names : (members.map (·.1)).Nodup)
    (choice : Option String) (fields : List String) :
    (record choice (named members)).slots? fields =
      some (fields.map fun field => (members.lookup field).elim .absent .given) := by
  rw [slots?, mapM_named]
  simp only [Option.bind_eq_bind, Option.bind_some, slotOf?_eq names]
  exact List.mapM_pure

theorem forall₂_slots {members others : List (String × Document)} {partner : String → Document}
    (names : (members.map (·.1)).Nodup) (otherNames : (others.map (·.1)).Nodup)
    (found : ∀ member ∈ members, (member.1, partner member.1) ∈ others)
    (each : ∀ member ∈ members, Alike member.2 (partner member.1))
    (covered : ∀ member ∈ others, member.1 ∈ members.map (·.1)) (fields : List String) :
    ∃ first second, fields.mapM (slotOf? · members) = some first ∧
      fields.mapM (slotOf? · others) = some second ∧ List.Forall₂ Slot.Alike first second := by
  induction fields with
  | nil => exact ⟨[], [], rfl, rfl, .nil⟩
  | cons field rest ih =>
    obtain ⟨slot, other, held, otherHeld, alike⟩ :=
      slotOf?_alike names otherNames found each covered field
    obtain ⟨first, second, all, otherAll, more⟩ := ih
    refine ⟨slot :: first, other :: second, ?_, ?_, .cons alike more⟩
    · rw [List.mapM_cons, held, all]
      rfl
    · rw [List.mapM_cons, otherHeld, otherAll]
      rfl

/-- Documents that are alike have slots that are alike, or neither has any. -/
theorem slots?_alike {first second : Document} (alike : Alike first second)
    (fields : List String) :
    first.slots? fields = none ∧ second.slots? fields = none ∨
      ∃ slots others, first.slots? fields = some slots ∧ second.slots? fields = some others ∧
        List.Forall₂ Slot.Alike slots others := by
  cases alike with
  | scalar value =>
    rw [slots?]
    by_cases blank : value.blank = true
    · refine .inr ⟨_, _, if_pos blank, if_pos blank, ?_⟩
      rw [List.forall₂_same]
      intro slot member
      obtain ⟨_, -, rfl⟩ := List.mem_map.mp member
      exact .absent
    · exact .inl ⟨if_neg blank, if_neg blank⟩
  | @list positional items others each =>
    rw [slots?, slots?, each.length_eq]
    by_cases long : (!positional || decide (fields.length < others.length)) = true
    · exact .inl ⟨if_pos long, if_pos long⟩
    · refine .inr ⟨_, _, if_neg long, if_neg long, ?_⟩
      refine List.rel_append ?_ ?_
      · rw [List.forall₂_map_left_iff, List.forall₂_map_right_iff]
        exact each.imp fun _ _ alike => .given alike
      · rw [List.forall₂_same]
        intro slot member
        rw [List.eq_of_mem_replicate member]
        exact .cutOff
  | record partner names otherNames found each covered =>
    obtain ⟨slots, others, all, otherAll, alike⟩ :=
      forall₂_slots names otherNames found each covered fields
    refine .inr ⟨slots, others, ?_, ?_, alike⟩
    · rw [slots?, mapM_named]
      exact all
    · rw [slots?, mapM_named]
      exact otherAll

/-! ## Readers -/

/-- A reader that finds the same in documents that are alike. -/
def Respects (read : Document → Option α) : Prop :=
  ∀ {first second}, Alike first second → read first = read second

theorem respects_text? : Respects text? := by
  intro first second alike
  cases alike <;> rfl

theorem respects_integer? : Respects integer? := by
  intro first second alike
  cases alike <;> rfl

theorem mapM_alike {read : Document → Option α} (respects : Respects read)
    {items others : List Document} (each : List.Forall₂ Alike items others) :
    items.mapM read = others.mapM read := by
  induction each with
  | nil => rfl
  | cons alike _ ih => rw [List.mapM_cons, List.mapM_cons, respects alike, ih]

theorem respects_listOf? {read : Document → Option α} (respects : Respects read) :
    Respects (listOf? read) := by
  intro first second alike
  cases alike with
  | scalar => rfl
  | list each => exact mapM_alike respects each
  | record => rfl

theorem respects_texts? : Respects texts? :=
  respects_listOf? respects_text?

theorem respects_integers? : Respects integers? :=
  respects_listOf? respects_integer?

theorem Slot.Alike.required? {slot other : Slot} (alike : Slot.Alike slot other)
    {read : Document → Option α} (respects : Respects read) :
    slot.required? read = other.required? read := by
  cases alike with
  | given alike => exact respects alike
  | absent => rfl
  | cutOff => rfl

theorem Slot.Alike.getD? {slot other : Slot} (alike : Slot.Alike slot other) (default : α)
    {read : Document → Option α} (respects : Respects read) :
    slot.getD? default read = other.getD? default read := by
  cases alike with
  | given alike => exact respects alike
  | absent => rfl
  | cutOff => rfl

/-- What is made of slots is the same if it is the same for slots that are alike. -/
theorem bind_slots?_alike {first second : Document} (alike : Alike first second)
    (fields : List String) {make : List Slot → Option α}
    (same : ∀ {slots others}, List.Forall₂ Slot.Alike slots others → make slots = make others) :
    (first.slots? fields >>= make) = (second.slots? fields >>= make) := by
  rcases slots?_alike alike fields with ⟨none, otherNone⟩ | ⟨slots, others, some, otherSome, each⟩
  · rw [none, otherNone]
  · rw [some, otherSome]
    exact same each

end Document

open Document

/-! ## Records of answers and templates -/

theorem KnowledgeObject.respects_ofDocument? : Respects KnowledgeObject.ofDocument? := by
  intro first second alike
  refine bind_slots?_alike alike fields fun each => ?_
  rcases each with _ | ⟨id, _ | ⟨category, _ | ⟨labels, _ | ⟨annotationIds, _ | ⟨_, _⟩⟩⟩⟩⟩
  case cons.cons.cons.cons.nil =>
    simp only [id.required? respects_integer?, category.required? respects_text?,
      labels.getD? [] respects_texts?, annotationIds.getD? [] respects_integers?]
  all_goals rfl

theorem DetailRecord.respects_ofDocument? : Respects DetailRecord.ofDocument? := by
  intro first second alike
  refine bind_slots?_alike alike fields fun each => ?_
  rcases each with _ | ⟨id, _ | ⟨text, _ | ⟨question, _ | ⟨objects, _ | ⟨context, _ | ⟨origin,
    _ | ⟨_, _⟩⟩⟩⟩⟩⟩⟩
  case cons.cons.cons.cons.cons.cons.nil =>
    simp only [id.required? respects_integer?, text.required? respects_text?,
      question.getD? 0 respects_integer?, objects.getD? [] respects_integers?,
      context.getD? 0 respects_integer?, origin.getD? "" respects_text?]
  all_goals rfl

theorem AnswerRecord.respects_ofDocument? : Respects AnswerRecord.ofDocument? := by
  intro first second alike
  refine bind_slots?_alike alike fields fun each => ?_
  rcases each with _ | ⟨details, _ | ⟨names, _ | ⟨result, _ | ⟨_, _⟩⟩⟩⟩
  case cons.cons.cons.nil =>
    simp only [details.required? respects_integers?, names.required? respects_texts?,
      result.required? respects_text?]
  all_goals rfl

theorem AnswerSource.respects_ofDocument? : Respects AnswerSource.ofDocument? := by
  intro first second alike
  refine bind_slots?_alike alike fields fun each => ?_
  rcases each with _ | ⟨objects, _ | ⟨answers, _ | ⟨details, _ | ⟨_, _⟩⟩⟩⟩
  case cons.cons.cons.nil =>
    simp only [objects.getD? [] (respects_listOf? KnowledgeObject.respects_ofDocument?),
      answers.required? (respects_listOf? AnswerRecord.respects_ofDocument?),
      details.getD? [] (respects_listOf? DetailRecord.respects_ofDocument?)]
  all_goals rfl

namespace QuestionTemplate

theorem respects_ofDocument? : Respects ofDocument? := by
  intro first second alike
  refine bind_slots?_alike alike fields fun each => ?_
  rcases each with _ | ⟨broader, _ | ⟨specific, _ | ⟨weak, _ | ⟨strong, _ | ⟨question,
    _ | ⟨expected, _ | ⟨search, _ | ⟨normal, _ | ⟨variableNames, _ | ⟨_, _⟩⟩⟩⟩⟩⟩⟩⟩⟩⟩
  case cons.cons.cons.cons.cons.cons.cons.cons.cons.nil =>
    simp only [broader.required? respects_text?, specific.required? respects_text?,
      weak.getD? [] respects_texts?, strong.getD? [] respects_texts?,
      question.getD? [] respects_texts?, expected.getD? [] respects_texts?,
      search.getD? [] respects_texts?, normal.getD? "" respects_text?,
      variableNames.getD? [] respects_texts?]
  all_goals rfl

/-- A list and a record that holds it are told apart, but not the documents that are alike. -/
theorem respects_listOfDocument? : Respects listOfDocument? := by
  intro first second alike
  cases alike with
  | scalar => rfl
  | list each => exact mapM_alike respects_ofDocument? each
  | record partner names otherNames found each covered =>
    refine bind_slots?_alike (.record partner names otherNames found each covered) ["templates"]
      fun slots => ?_
    rcases slots with _ | ⟨templates, _ | ⟨_, _⟩⟩
    case cons.nil =>
      simp only [templates.required? (respects_listOf? respects_ofDocument?)]
    all_goals rfl

end QuestionTemplate

/-! ## The document of a text and that of its value -/

namespace Json

/-- A document in the form in which JSON is read. -/
inductive Shaped : Document → Prop
  | null : Shaped nullScalar
  | flag (value : Bool) : Shaped (flagScalar value)
  | number (value : Option JsonNumber) : Shaped (numberScalar value)
  | text (value : Option String) : Shaped (textScalar value)
  | list {items : List Document} (each : ∀ item ∈ items, Shaped item) : Shaped (.list true items)
  | record {members : List (Option String × Document)}
      (each : ∀ member ∈ members, Shaped member.2) : Shaped (recordOf members)

theorem eq_of_readWord? {word : String} {document found : Document} {text rest : List Char}
    (read : readWord? word document text = some (found, rest)) : found = document := by
  rw [readWord?] at read
  split at read
  · cases read
    rfl
  · cases read

/-- What is read with some fuel has that form. -/
structure ReadsShaped (fuel : Nat) : Prop where
  value : ∀ text document rest, readValue? fuel text = some (document, rest) → Shaped document
  items : ∀ text items rest, readItems? fuel text = some (items, rest) →
    ∀ item ∈ items, Shaped item
  members : ∀ text members rest, readMembers? fuel text = some (members, rest) →
    ∀ member ∈ members, Shaped member.2

namespace ReadsShaped

variable {fuel : Nat} {text rest : List Char}

theorem value_succ (shaped : ReadsShaped fuel) {document : Document}
    (read : readValue? (fuel + 1) text = some (document, rest)) : Shaped document := by
  rw [readValue?] at read
  split at read
  · cases read
  · rw [eq_of_readWord? read]
    exact .null
  · rw [eq_of_readWord? read]
    exact .flag true
  · rw [eq_of_readWord? read]
    exact .flag false
  · obtain ⟨⟨found, after⟩, -, same⟩ := Option.map_eq_some_iff.mp read
    cases same
    exact .text found
  · split at read
    · cases read
      exact .list (List.forall_mem_nil _)
    · obtain ⟨⟨found, after⟩, inner, same⟩ := Option.map_eq_some_iff.mp read
      cases same
      exact .list (shaped.items _ _ _ inner)
  · split at read
    · cases read
      have empty : Shaped (recordOf []) := .record (List.forall_mem_nil _)
      exact empty
    · obtain ⟨⟨found, after⟩, inner, same⟩ := Option.map_eq_some_iff.mp read
      cases same
      exact .record (shaped.members _ _ _ inner)
  · obtain ⟨⟨numeral, after⟩, -, same⟩ := Option.map_eq_some_iff.mp read
    cases same
    exact .number numeral.value?

theorem items_succ (shaped : ReadsShaped fuel) {items : List Document}
    (read : readItems? (fuel + 1) text = some (items, rest)) : ∀ item ∈ items, Shaped item := by
  rw [readItems?] at read
  obtain ⟨⟨first, behind⟩, value, read⟩ := Option.bind_eq_some_iff.mp read
  have own := shaped.value _ _ _ value
  simp only at read
  split at read
  · obtain ⟨⟨more, after⟩, inner, same⟩ := Option.map_eq_some_iff.mp read
    cases same
    exact List.forall_mem_cons.mpr ⟨own, shaped.items _ _ _ inner⟩
  · cases read
    exact List.forall_mem_singleton.mpr own
  · cases read

theorem members_succ (shaped : ReadsShaped fuel) {members : List (Option String × Document)}
    (read : readMembers? (fuel + 1) text = some (members, rest)) :
    ∀ member ∈ members, Shaped member.2 := by
  rw [readMembers?] at read
  split at read
  · obtain ⟨⟨name, behind⟩, -, read⟩ := Option.bind_eq_some_iff.mp read
    simp only at read
    split at read
    · obtain ⟨⟨first, behind⟩, value, read⟩ := Option.bind_eq_some_iff.mp read
      have own := shaped.value _ _ _ value
      simp only at read
      split at read
      · obtain ⟨⟨more, after⟩, inner, same⟩ := Option.map_eq_some_iff.mp read
        cases same
        exact List.forall_mem_cons.mpr ⟨own, shaped.members _ _ _ inner⟩
      · cases read
        exact List.forall_mem_singleton.mpr own
      · cases read
    · cases read
  · cases read

end ReadsShaped

/-- Whatever is read from a text has that form. -/
theorem readsShaped (fuel : Nat) : ReadsShaped fuel := by
  induction fuel with
  | zero =>
    constructor
    · intro text document rest read
      simp [readValue?] at read
    · intro text items rest read
      simp [readItems?] at read
    · intro text members rest read
      simp [readMembers?] at read
  | succ fuel ih =>
    constructor
    · intro text document rest read
      exact ih.value_succ read
    · intro text items rest read
      exact ih.items_succ read
    · intro text members rest read
      exact ih.members_succ read

theorem itemsToDocument_eq (items : List Json) :
    itemsToDocument items = items.map toDocument := by
  induction items with
  | nil => rfl
  | cons item items ih => rw [itemsToDocument, ih, List.map_cons]

theorem membersToDocument_eq (members : List (String × Json)) :
    membersToDocument members =
      named (members.map fun (name, value) => (name, value.toDocument)) := by
  induction members with
  | nil => rfl
  | cons member members ih =>
    obtain ⟨name, value⟩ := member
    rw [membersToDocument, ih]
    rfl

theorem forall₂_itemsToJson? {depth : Nat} {items : List Document} {values : List Json}
    (read : itemsToJson? depth items = some values) :
    List.Forall₂ (fun item value => toJson? depth item = some value) items values := by
  induction items generalizing values with
  | nil =>
    rw [itemsToJson?] at read
    cases read
    exact .nil
  | cons item rest ih =>
    rw [itemsToJson?] at read
    obtain ⟨value, own, read⟩ := Option.bind_eq_some_iff.mp read
    obtain ⟨more, others, same⟩ := Option.bind_eq_some_iff.mp read
    cases same
    exact .cons own (ih others)

/-- Members that have values have texts for names. -/
theorem forall₂_membersToJson? {depth : Nat} {members : List (Option String × Document)}
    {values : List (String × Json)} (read : membersToJson? depth members = some values) :
    ∃ entries, members = named entries ∧ List.Forall₂ (fun entry value => entry.1 = value.1 ∧
      toJson? depth entry.2 = some value.2) entries values := by
  induction members generalizing values with
  | nil =>
    rw [membersToJson?] at read
    cases read
    exact ⟨[], rfl, .nil⟩
  | cons member rest ih =>
    obtain ⟨name, document⟩ := member
    rw [membersToJson?] at read
    obtain ⟨text, rfl, onward⟩ := Option.bind_eq_some_iff.mp read
    obtain ⟨value, own, onward⟩ := Option.bind_eq_some_iff.mp onward
    obtain ⟨more, others, same⟩ := Option.bind_eq_some_iff.mp onward
    cases same
    obtain ⟨entries, rfl, each⟩ := ih others
    exact ⟨(text, document) :: entries, rfl, .cons ⟨rfl, own⟩ each⟩

theorem exists_of_forall₂ {relation : α → β → Prop} {items : List α} {others : List β}
    (each : List.Forall₂ relation items others) {item : α} (member : item ∈ items) :
    ∃ other ∈ others, relation item other := by
  induction each with
  | nil => cases member
  | cons head _ ih =>
    rcases List.mem_cons.mp member with rfl | later
    · exact ⟨_, List.mem_cons_self, head⟩
    · obtain ⟨other, listed, related⟩ := ih later
      exact ⟨other, List.mem_cons_of_mem _ listed, related⟩

/-- Names stay the same when their documents become values. -/
theorem names_of_forall₂ {depth : Nat} {entries : List (String × Document)}
    {values : List (String × Json)}
    (each : List.Forall₂ (fun entry value => entry.1 = value.1 ∧
      toJson? depth entry.2 = some value.2) entries values) :
    entries.map (·.1) = values.map (·.1) := by
  induction each with
  | nil => rfl
  | cons head _ ih => rw [List.map_cons, List.map_cons, head.1, ih]

/-- A record is like the document of the value that has its members sorted. -/
theorem alike_ofMembers {depth : Nat} {choice : Option String}
    {entries : List (String × Document)} {values : List (String × Json)}
    (distinct : (entries.map (·.1)).Nodup)
    (same : List.Forall₂ (fun entry value => entry.1 = value.1 ∧
      toJson? depth entry.2 = some value.2) entries values)
    (each : ∀ entry ∈ entries, ∀ value, toJson? depth entry.2 = some value →
      Alike entry.2 value.toDocument) :
    Alike (.record choice (named entries)) (ofMembers values).toDocument := by
  have sameNames := names_of_forall₂ same
  have held (entry : String × Document) (member : entry ∈ entries) :
      ∃ value, (Keyed.ofList values).lookup entry.1 = some value ∧
        toJson? depth entry.2 = some value := by
    obtain ⟨⟨name, value⟩, listed, equal, read⟩ := exists_of_forall₂ same member
    have found := Keyed.lookup_of_mem_distinct (sameNames ▸ distinct) listed
    rw [Keyed.lookup_ofList (sameNames ▸ distinct), equal]
    exact ⟨value, found, read⟩
  -- Names are distinct, so the sorted members have one partner for each member.
  let partner (name : String) : Document :=
    ((Keyed.ofList values).lookup name).elim nullScalar toDocument
  obtain ⟨otherChoice, other⟩ := recordOf_eq (membersToDocument (Keyed.ofList values))
  rw [ofMembers, toDocument, other, membersToDocument_eq]
  refine .record partner distinct ?otherNames ?found ?each ?covered
  case otherNames =>
    rw [List.map_map]
    exact Keyed.distinct_of_sorted (Keyed.sorted_ofList values)
  case found =>
    intro entry member
    obtain ⟨value, found, -⟩ := held entry member
    refine List.mem_map.mpr ⟨(entry.1, value), Keyed.mem_of_lookup found, ?_⟩
    simp only [partner, found, Option.elim_some]
  case each =>
    intro entry member
    obtain ⟨value, found, read⟩ := held entry member
    simp only [partner, found, Option.elim_some]
    exact each entry member value read
  case covered =>
    intro other member
    obtain ⟨entry, listed, rfl⟩ := List.mem_map.mp member
    rw [sameNames]
    exact List.mem_map_of_mem (Keyed.mem_ofList listed)

theorem shaped_of_ofJson? {text : String} {document : Document}
    (written : ofJson? text = some document) : Shaped document := by
  obtain ⟨⟨found, rest⟩, read, whole⟩ := Option.bind_eq_some_iff.mp written
  obtain ⟨-, same⟩ := Option.ite_none_right_eq_some.mp whole
  cases same
  exact (readsShaped _).value _ _ _ read

/-- The document of a JSON text is like that of the value that the text holds. -/
theorem alike_toDocument {document : Document} (shaped : Shaped document) {depth : Nat}
    {value : Json} (distinct : document.Distinct) (read : toJson? depth document = some value) :
    Alike document value.toDocument := by
  induction shaped generalizing depth value with
  | null =>
    cases read
    exact .scalar _
  | flag flag =>
    cases read
    exact .scalar _
  | number number =>
    cases number with
    | none => cases read
    | some number =>
      cases read
      exact .scalar _
  | text text =>
    cases text with
    | none => cases read
    | some text =>
      cases read
      exact .scalar _
  | @list items each ih =>
    cases depth with
    | zero => cases read
    | succ depth =>
      obtain ⟨values, all, rfl⟩ := Option.map_eq_some_iff.mp read
      cases distinct with
      | list inner =>
        rw [toDocument, itemsToDocument_eq]
        refine .list (List.forall₂_map_right_iff.mpr ?_)
        have own (item : Document) (member : item ∈ items) (value : Json)
            (read : toJson? depth item = some value) : Alike item value.toDocument :=
          ih item member (inner item member) read
        exact ((List.forall₂_and_left _ _).mpr ⟨own, forall₂_itemsToJson? all⟩).imp
          fun _ value both => both.1 value both.2
  | @record members each ih =>
    obtain ⟨choice, record⟩ := recordOf_eq members
    rw [record] at distinct read ⊢
    cases depth with
    | zero => cases read
    | succ depth =>
      obtain ⟨values, all, rfl⟩ := Option.map_eq_some_iff.mp read
      cases distinct with
      | record names inner =>
        obtain ⟨entries, rfl, same⟩ := forall₂_membersToJson? all
        have distinctNames : (entries.map (·.1)).Nodup := by
          rw [named, List.map_map] at names
          exact List.Nodup.of_map some (by rwa [List.map_map])
        refine alike_ofMembers distinctNames same ?_
        intro entry member value read
        have listed : (some entry.1, entry.2) ∈ named entries := List.mem_map_of_mem member
        exact ih _ listed (inner _ listed) read

end Json

end AnswerGraph
