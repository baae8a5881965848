import AnswerGraph.Proofs.DocumentForm
import AnswerGraph.Proofs.Faults
import AnswerGraph.Proofs.IndexIsolation

/-!
What index files may hold. A store can be opened with any texts for index files: a text that is a
JSON object of texts gives the entries of its index, and every other text gives none. Bytes that are
not the encoding of a text are a fault, and then no index can be used.
-/

namespace AnswerGraph

/-! ## Bytes that are texts -/

theorem Contents.ofBytes_text (text : String) : Contents.ofBytes text.toUTF8 = .text text := by
  have decoded : String.fromUTF8? text.toUTF8 = some text := by
    rw [String.fromUTF8?, String.toUTF8_eq_toByteArray, dif_pos text.isValidUTF8]
    rfl
  rw [ofBytes, decoded]

theorem Contents.ofBytes_of_invalid {bytes : ByteArray} (invalid : ¬ bytes.IsValidUTF8) :
    Contents.ofBytes bytes = .binary bytes.toList := by
  rw [ofBytes, String.fromUTF8?, dif_neg invalid]

theorem exists_text {bytes : ByteArray} (valid : bytes.IsValidUTF8) :
    ∃ text : String, bytes = text.toUTF8 :=
  ⟨String.ofByteArray bytes valid, rfl⟩

/-! ## Objects of texts -/

namespace Json

/-- A text that is an object whose members, in the order written, are all texts. -/
def ObjectOfTexts (text : String) (members : List (String × String)) : Prop :=
  Document.ofJson? text = some (Json.object (stringMembers members)).toDocument

theorem membersToDocument_strings (members : List (String × String)) :
    membersToDocument (stringMembers members) =
      members.map fun (key, value) => (some key, textScalar (some value)) := by
  rw [membersToDocument_eq, Document.named, stringMembers, List.map_map, List.map_map]
  exact List.map_congr_left fun _ _ => rfl

/-- Its value is the object of these members, of which the last of each name counts. -/
theorem ObjectOfTexts.parse?_eq {text : String} {members : List (String × String)}
    (object : ObjectOfTexts text members) :
    Json.parse? text = some (ofMembers (stringMembers members)) := by
  have values (depth : Nat) : Document.membersToJson? depth
      (membersToDocument (stringMembers members)) = some (stringMembers members) := by
    refine membersToJson?_toDocument fun member listed => ?_
    obtain ⟨entry, -, rfl⟩ := List.mem_map.mp listed
    rw [toDocument, textScalar, Document.toJson?]
    rfl
  obtain ⟨choice, record⟩ := recordOf_eq (membersToDocument (stringMembers members))
  rw [parse?, object, Option.bind_some, toDocument, record, Document.maxDepth, Document.toJson?,
    values, Option.map_some]

theorem eq_textScalar {document : Document} (shaped : Shaped document) {text : String}
    (read : document.text? = some text) : document = textScalar (some text) := by
  cases shaped with
  | text value =>
    cases read
    rfl
  | @record members each =>
    obtain ⟨choice, record⟩ := recordOf_eq members
    rw [record] at read
    cases read
  | null | flag | number | list => cases read

/-- Members that can all be read as texts are named texts. -/
theorem eq_of_mapM_text? {members : List (Option String × Document)}
    (shaped : ∀ member ∈ members, Shaped member.2) {entries : List (String × String)}
    (read : members.mapM (fun (name, value) => do some (← name, ← value.text?)) = some entries) :
    members = entries.map fun (key, value) => (some key, textScalar (some value)) := by
  induction members generalizing entries with
  | nil =>
    cases read
    rfl
  | cons member rest ih =>
    obtain ⟨name, document⟩ := member
    rw [List.mapM_cons] at read
    obtain ⟨entry, own, onward⟩ := Option.bind_eq_some_iff.mp read
    obtain ⟨more, others, same⟩ := Option.bind_eq_some_iff.mp onward
    obtain ⟨key, rfl, text⟩ := Option.bind_eq_some_iff.mp own
    obtain ⟨value, found, paired⟩ := Option.bind_eq_some_iff.mp text
    cases same
    cases paired
    obtain rfl := eq_textScalar (shaped _ List.mem_cons_self) found
    rw [ih (fun other member => shaped other (List.mem_cons_of_mem _ member)) others,
      List.map_cons]

/-- The members of a text can be read as texts exactly if it is an object of texts. -/
theorem bind_textMembers?_eq_some_iff {text : String} {members : List (String × String)} :
    (Document.ofJson? text).bind Document.textMembers? = some members ↔
      ObjectOfTexts text members := by
  constructor
  · intro read
    obtain ⟨document, written, texts⟩ := Option.bind_eq_some_iff.mp read
    cases shaped_of_ofJson? written with
    | @record parts each =>
      obtain ⟨choice, record⟩ := recordOf_eq parts
      rw [record, Document.textMembers?] at texts
      rw [ObjectOfTexts, written, toDocument, membersToDocument_strings,
        ← eq_of_mapM_text? each texts]
    | null | flag | number | text | list => cases texts
  · intro object
    rw [object, Option.bind_some, textMembers?_strings]

end Json

/-! ## Index files -/

namespace FileTree

/-- A path leads to a file of some bytes, or to nothing. -/
def Has (files : FileTree) (path : String) : Option ByteArray → Prop
  | some bytes => files.read path = .ok (.ofBytes bytes)
  | none => files.read path = .error .notFound

end FileTree

namespace Store

open FileTree (Layout)
open Json (ObjectOfTexts)

/-- The bytes of a file, if there is one, are a text. -/
def IsText (found : Option ByteArray) : Prop := ∀ bytes ∈ found, bytes.IsValidUTF8

theorem isText_text (text : String) : IsText (some text.toUTF8) := by
  intro bytes member
  cases member
  exact text.isValidUTF8

/-- The entries that an index file gives. -/
inductive Gives : Option ByteArray → DocumentIndex → Prop
  | missing : Gives none []
  | object {text : String} {members : List (String × String)}
      (object : ObjectOfTexts text members) :
      Gives (some text.toUTF8) (Keyed.ofList members)
  | damaged {text : String} (other : ∀ members, ¬ ObjectOfTexts text members) :
      Gives (some text.toUTF8) []

variable {files : FileTree} {path root : String} {found : Option ByteArray}
  {entries : DocumentIndex} {names : List String}

theorem readIndex_of_text {text : String} (has : files.Has path (some text.toUTF8)) :
    readIndex files path =
      .ok (Keyed.ofList (((Document.ofJson? text).bind Document.textMembers?).getD [])) := by
  have read : files.read path = .ok (.text text) := has.trans (by rw [Contents.ofBytes_text])
  have written : files.readText path = .ok text := by
    rw [FileTree.readText, read]
    rfl
  rw [readIndex, written]

theorem Gives.readIndex_eq (gives : Gives found entries) (has : files.Has path found) :
    readIndex files path = .ok entries := by
  cases gives with
  | missing =>
    have absent : files.readText path = .error .notFound := by
      rw [FileTree.readText, has]
      rfl
    rw [readIndex, absent]
  | object object =>
    rw [readIndex_of_text has, Json.bind_textMembers?_eq_some_iff.mpr object, Option.getD_some]
  | @damaged text other =>
    have none : (Document.ofJson? text).bind Document.textMembers? = none := by
      apply Option.eq_none_iff_forall_ne_some.mpr
      exact fun members read => other members (Json.bind_textMembers?_eq_some_iff.mp read)
    rw [readIndex_of_text has, none]
    rfl

/-- Every text gives entries, though it may be none. -/
theorem exists_gives (text : IsText found) : ∃ entries, Gives found entries := by
  cases found with
  | none => exact ⟨[], .missing⟩
  | some bytes =>
    obtain ⟨letters, rfl⟩ := exists_text (text bytes rfl)
    by_cases object : ∃ members, ObjectOfTexts letters members
    · obtain ⟨members, object⟩ := object
      exact ⟨_, .object object⟩
    · exact ⟨[], .damaged fun members other => object ⟨members, other⟩⟩

/-- What a file gives is an object that it holds, or nothing. -/
theorem Gives.value (gives : Gives found entries) :
    entries = [] ∨ ∃ text : String, found = some text.toUTF8 ∧
      Json.parse? text = some (.object (Json.stringMembers entries)) := by
  cases gives with
  | missing | damaged => exact .inl rfl
  | @object text members object =>
    refine .inr ⟨text, rfl, ?_⟩
    rw [object.parse?_eq, Json.ofMembers, Json.stringMembers, Json.stringMembers,
      Keyed.ofList_map Json.string]

theorem readIndex_of_not_text (has : files.Has path found) (binary : ¬ IsText found) :
    readIndex files path = .error (.fault path) := by
  cases found with
  | none => exact absurd (by rintro bytes ⟨⟩) binary
  | some bytes =>
    have invalid : ¬ bytes.IsValidUTF8 := by
      intro valid
      refine binary fun other member => ?_
      exact Option.some.inj member ▸ valid
    have unread : files.readText path = .error .notText := by
      rw [FileTree.readText, has, Contents.ofBytes_of_invalid invalid]
      rfl
    rw [readIndex, unread]

/-! ## Opening a store -/

/-- The first index file that cannot be read decides that a store cannot be opened. -/
theorem load_eq_error_iff {fault : StoreError} :
    load files root names = .error fault ↔
      ∃ front name back, names = front ++ name :: back ∧
        readIndex files (indexFile root name) = .error fault ∧
        ∀ earlier ∈ front, ∃ entries, readIndex files (indexFile root earlier) = .ok entries := by
  rw [load, bind_pure_eq_error_iff, mapM_eq_error_iff]
  simp only [bind_pure_eq_error_iff, exists_bind_pure_ok_iff]

theorem readIndex_eq_ok_iff (has : files.Has path found) :
    (∃ entries, readIndex files path = .ok entries) ↔ IsText found := by
  constructor
  · rintro ⟨entries, read⟩
    by_contra binary
    rw [readIndex_of_not_text has binary] at read
    cases read
  · intro text
    obtain ⟨entries, gives⟩ := exists_gives text
    exact ⟨entries, gives.readIndex_eq has⟩

theorem readIndex_eq_error_iff (has : files.Has path found) {fault : StoreError} :
    readIndex files path = .error fault ↔ ¬ IsText found ∧ fault = .fault path := by
  constructor
  · intro failed
    have binary : ¬ IsText found := by
      intro text
      obtain ⟨entries, read⟩ := (readIndex_eq_ok_iff has).mpr text
      rw [read] at failed
      cases failed
    exact ⟨binary, Except.error.inj (failed.symm.trans (readIndex_of_not_text has binary))⟩
  · rintro ⟨binary, rfl⟩
    exact readIndex_of_not_text has binary

theorem readIndex_congr {after : FileTree} (has : files.Has path found)
    (same : after.Has path found) : readIndex after path = readIndex files path := by
  have read : after.read path = files.read path := by
    cases found with
    | none => exact Eq.trans same (Eq.symm has)
    | some bytes => exact Eq.trans same (Eq.symm has)
  rw [readIndex, readIndex, FileTree.readText, FileTree.readText, read]

section Load

variable {given : String → Option ByteArray}

theorem load_eq_error_of_bytes
    (held : ∀ name ∈ names, files.Has (indexFile root name) (given name)) (fault : StoreError) :
    load files root names = .error fault ↔
      ∃ front name back, names = front ++ name :: back ∧
        (∀ earlier ∈ front, IsText (given earlier)) ∧ ¬ IsText (given name) ∧
          fault = .fault (indexFile root name) := by
  rw [load_eq_error_iff]
  constructor
  · rintro ⟨front, name, back, rfl, failed, before⟩
    have own := held name (List.mem_append_right _ List.mem_cons_self)
    have cause := (readIndex_eq_error_iff own).mp failed
    refine ⟨front, name, back, rfl, fun earlier member => ?_, cause⟩
    exact (readIndex_eq_ok_iff (held earlier (List.mem_append_left _ member))).mp
      (before earlier member)
  · rintro ⟨front, name, back, rfl, before, failed⟩
    have own := held name (List.mem_append_right _ List.mem_cons_self)
    have cause := (readIndex_eq_error_iff own).mpr failed
    refine ⟨front, name, back, rfl, cause, fun earlier member => ?_⟩
    exact (readIndex_eq_ok_iff (held earlier (List.mem_append_left _ member))).mpr
      (before earlier member)

theorem exists_load_iff
    (held : ∀ name ∈ names, files.Has (indexFile root name) (given name)) :
    (∃ store, load files root names = .ok store) ↔ ∀ name ∈ names, IsText (given name) := by
  constructor
  · rintro ⟨store, loaded⟩ name member
    exact (readIndex_eq_ok_iff (held name member)).mp (read_of_load loaded name member)
  · intro texts
    cases loaded : load files root names with
    | ok store => exact ⟨store, rfl⟩
    | error fault =>
      obtain ⟨front, name, back, rfl, -, binary, -⟩ := (load_eq_error_of_bytes held fault).mp loaded
      exact absurd (texts name (List.mem_append_right _ List.mem_cons_self)) binary

theorem entries_of_load {store : Store} (loaded : load files root names = .ok store)
    {name : String} (member : name ∈ names) :
    store.entries name = readIndex files (indexFile root name) := by
  obtain ⟨contents, rfl, read⟩ := eq_of_load loaded
  rw [entries_of_names, if_pos member, read name member]

theorem gives_of_load (held : ∀ name ∈ names, files.Has (indexFile root name) (given name))
    {store : Store} (loaded : load files root names = .ok store) {name : String}
    (member : name ∈ names) :
    ∃ entries, store.entries name = .ok entries ∧ Gives (given name) entries := by
  have text := (exists_load_iff held).mp ⟨store, loaded⟩ name member
  obtain ⟨entries, gives⟩ := exists_gives text
  exact ⟨entries, (entries_of_load loaded member).trans (gives.readIndex_eq (held name member)),
    gives⟩

/-- Whatever bytes the index files have (or whether they are there at all), a store is opened if
each of them is a text, and otherwise the first that is none is a fault. In a store that is opened
an index has the entries that its own file gives: those of the JSON object if the text is an object
of texts, and none if it is anything else. What other files hold makes no difference to them. -/
theorem load_of_bytes (held : ∀ name ∈ names, files.Has (indexFile root name) (given name)) :
    ((∃ store, load files root names = .ok store) ↔ ∀ name ∈ names, IsText (given name)) ∧
    (∀ fault, load files root names = .error fault ↔
      ∃ front name back, names = front ++ name :: back ∧
        (∀ earlier ∈ front, IsText (given earlier)) ∧ ¬ IsText (given name) ∧
          fault = .fault (indexFile root name)) ∧
    ∀ store, load files root names = .ok store →
      (∀ name ∉ names, store.entries name = .error (.unknownIndex name)) ∧
      (∀ name ∈ names, ∃ entries, store.entries name = .ok entries ∧ Gives (given name) entries ∧
        (entries = [] ∨ ∃ text : String, given name = some text.toUTF8 ∧
          Json.parse? text = some (.object (Json.stringMembers entries)))) ∧
      ∀ after again, load after root names = .ok again →
        ∀ name ∈ names, after.Has (indexFile root name) (given name) →
          again.entries name = store.entries name := by
  refine ⟨exists_load_iff held, load_eq_error_of_bytes held, fun store loaded => ⟨?_, ?_, ?_⟩⟩
  · intro name foreign
    obtain ⟨contents, rfl, -⟩ := eq_of_load loaded
    rw [entries_of_names, if_neg foreign]
  · intro name member
    obtain ⟨entries, known, gives⟩ := gives_of_load held loaded member
    exact ⟨entries, known, gives, gives.value⟩
  · intro after again reloaded name member same
    rw [entries_of_load reloaded member, entries_of_load loaded member,
      readIndex_congr (held name member) same]

end Load

/-! ## An index file beside a damaged one -/

/-- An index file with one entry. -/
def listingX : String :=
  "\x7b\"x\": \"b/x.json\"\x7d"

theorem object_listingX : ObjectOfTexts listingX [("x", "b/x.json")] := by
  rw [ObjectOfTexts]
  cbv

/-- The index files of two indexes in the working folder: the second has one entry. -/
def besideX (first : Contents) : FileTree :=
  ((FileTree.empty []).putFile [] "indexes" (fileName "a") first).putFile [] "indexes"
    (fileName "b") (.text listingX)

theorem read_besideX (first : Contents) :
    (besideX first).read (indexFile "." "a") = .ok first ∧
      (besideX first).read (indexFile "." "b") = .ok (.text listingX) := by
  have before : Layout ((FileTree.empty []).putFile [] "indexes" (fileName "a") first) "." [] :=
    empty_working.layout.putFile ..
  have layout : Layout (besideX first) "." [] := before.putFile ..
  have folder : FileTree.entry? (besideX first) ([] ++ ["indexes"]) = some .folder := by
    rw [besideX, FileTree.entry?_putFile before, if_neg (by decide), if_pos rfl]
  have own : FileTree.entry? (besideX first) ([] ++ ["indexes", fileName "a"]) = some (.file first) := by
    rw [besideX, FileTree.entry?_putFile before, if_neg (by decide), if_neg (by decide),
      FileTree.entry?_putFile empty_working.layout, if_pos rfl]
  have other : FileTree.entry? (besideX first) ([] ++ ["indexes", fileName "b"]) =
      some (.file (.text listingX)) := by
    rw [besideX, FileTree.entry?_putFile before, if_pos rfl]
  constructor
  · rw [FileTree.read, indexFile_eq,
      layout.locate_inner followed_indexes named_a.followed_file listable_a folder true]
    simp only [Bind.bind, Except.bind, own]
  · rw [FileTree.read, indexFile_eq,
      layout.locate_inner followed_indexes named_b.followed_file listable_b folder true]
    simp only [Bind.bind, Except.bind, other]

/-- The bytes of these index files. -/
def givenX (first : ByteArray) (name : String) : Option ByteArray :=
  some (if name = "a" then first else listingX.toUTF8)

theorem has_besideX (first : ByteArray) :
    ∀ name ∈ ["a", "b"],
      (besideX (.ofBytes first)).Has (indexFile "." name) (givenX first name) := by
  obtain ⟨own, other⟩ := read_besideX (.ofBytes first)
  have second : (besideX (.ofBytes first)).read (indexFile "." "b") =
      .ok (.ofBytes listingX.toUTF8) := by
    rw [Contents.ofBytes_text, other]
  simpa [FileTree.Has, givenX] using And.intro own second

/-- The text of the first index file is no JSON. Its index has no entries, and the other has its
own. -/
theorem load_of_bytes_damaged :
    let damaged := "\x7bnot json".toUTF8
    let files := besideX (.ofBytes damaged)
    (∀ name ∈ ["a", "b"], files.Has (indexFile "." name) (givenX damaged name)) ∧
      ∃ store, load files "." ["a", "b"] = .ok store ∧ store.ids "a" = .ok [] ∧
        store.ids "b" = .ok ["x"] := by
  intro damaged files
  have held := has_besideX damaged
  obtain ⟨opened, -, contents⟩ := load_of_bytes held
  have texts : ∀ name ∈ ["a", "b"], IsText (givenX damaged name) := by
    simpa [givenX, damaged] using And.intro (isText_text _) (isText_text listingX)
  obtain ⟨store, loaded⟩ := opened.mpr texts
  obtain ⟨-, known, -⟩ := contents store loaded
  refine ⟨held, store, loaded, ?_, ?_⟩
  · obtain ⟨entries, found, -, rfl | ⟨text, same, read⟩⟩ := known "a" (by decide)
    · exact ids_eq_ok_iff.mpr ⟨[], found, rfl⟩
    · obtain rfl : "\x7bnot json" = text := String.toByteArray_inj.mp (Option.some.inj same)
      have unread : Json.parse? "\x7bnot json" = none := by cbv
      cases unread.symm.trans read
  · obtain ⟨entries, found, gives, -⟩ := known "b" (by decide)
    have own : Gives (givenX damaged "b") [("x", "b/x.json")] := .object object_listingX
    have has := held "b" (by decide)
    cases (gives.readIndex_eq has).symm.trans (own.readIndex_eq has)
    exact ids_eq_ok_iff.mpr ⟨_, found, rfl⟩

/-- A byte that starts no character, as the first of two index files, and no index can be used: the
store is not opened, though the other file could be read. -/
theorem binary_index_not_loaded :
    let damaged : ByteArray := ⟨#[0xff]⟩
    let files := besideX (.ofBytes damaged)
    (∀ name ∈ ["a", "b"], files.Has (indexFile "." name) (givenX damaged name)) ∧
      load files "." ["a", "b"] = .error (.fault (indexFile "." "a")) ∧
        readIndex files (indexFile "." "b") = .ok [("x", "b/x.json")] := by
  intro damaged files
  have held := has_besideX damaged
  have invalid : ¬ damaged.IsValidUTF8 := by decide +kernel
  have binary : ¬ IsText (givenX damaged "a") := fun text => invalid (text damaged rfl)
  have other : Gives (givenX damaged "b") [("x", "b/x.json")] := .object object_listingX
  refine ⟨held, ?_, other.readIndex_eq (held "b" (by decide))⟩
  exact (load_eq_error_of_bytes held _).mpr ⟨[], "a", ["b"], rfl, by simp, binary, rfl⟩

end Store

end AnswerGraph
