import AnswerGraph.Proofs.Shelf
import AnswerGraph.Proofs.StoreLayout

/-!
A store that is not rebuilt is a map from indexes and ids to documents. The map is in three places:
in memory, in the index files and in the files of the documents; opening the store again loses what
is in memory. The invariant says that the three agree with one map.
-/

namespace AnswerGraph

open FileTree (Layout UsablePath Followed Keeps)

namespace Store

open StoreAction

/-! ## The invariant -/

/-- A document is in the file of its id. -/
structure Filed (files : FileTree) (root : String) (place : Location) (index id : String)
    (document : Json) : Prop where
  usable : UsablePath (documentPath root index id)
  followed : Followed (fileName id)
  folder : files.entry? (place ++ [index]) = some .folder
  held : files.entry? (place ++ [index, fileName id]) =
    some (.file (.text (document.render true)))
  readable : Json.parse? (document.render true) = some document

/-- The documents of an index are in their files, its entries are in memory, and its index file
holds them; as long as there was nothing to hold it may be missing. -/
structure Mirrored (files : FileTree) (root : String) (place : Location) (index : String)
    (documents : String → Option Json) (entries : DocumentIndex) : Prop where
  sorted : Keyed.Sorted entries
  lookup : ∀ id, entries.lookup id = (documents id).map fun _ => documentPath root index id
  filed : ∀ {id document}, documents id = some document →
    Filed files root place index id document
  recorded : entries = [] ∧ files.entry? (place ++ ["indexes", fileName index]) = none ∨
    files.entry? (place ++ ["indexes", fileName index]) =
      some (.file (.text (entriesText entries)))

/-- A store in a folder holds the documents of a map. -/
structure Mirrors (root : String) (place : Location) (names : List String) (shelf : Shelf)
    (state : StoreState) : Prop where
  rooted : state.store.root = root
  layout : Layout state.files root place
  unknown : ∀ index, index ∉ names → state.store.entries index = .error (.unknownIndex index)
  known : ∀ index ∈ names, ∃ entries, state.store.entries index = .ok entries ∧
    Mirrored state.files root place index (shelf index) entries

section Mirrored

variable {files after : FileTree} {root index id : String} {place : Location} {document : Json}
  {documents : String → Option Json} {entries : DocumentIndex}

theorem Filed.keep (filed : Filed files root place index id document)
    (keeps : Keeps files after)
    (same : after.entry? (place ++ [index, fileName id]) =
      files.entry? (place ++ [index, fileName id])) :
    Filed after root place index id document :=
  ⟨filed.usable, filed.followed, keeps.folder filed.folder, same.trans filed.held, filed.readable⟩

theorem Filed.located (filed : Filed files root place index id document)
    (layout : Layout files root place) (followed : Followed index) (through : Bool) :
    files.locate through (documentPath root index id) = .ok (place ++ [index, fileName id]) :=
  layout.locate_inner followed filed.followed filed.usable filed.folder through

theorem Filed.read (filed : Filed files root place index id document)
    (layout : Layout files root place) (followed : Followed index) :
    readDocument files (documentPath root index id) = .ok document := by
  rw [readDocument_of_located (filed.located layout followed true), filed.held]
  simp only [filed.readable]

/-- An index stays as it is if none of its files change. -/
theorem Mirrored.keep (mirrored : Mirrored files root place index documents entries)
    (keeps : Keeps files after)
    (own : ∀ file, after.entry? (place ++ [index, file]) = files.entry? (place ++ [index, file]))
    (listed : after.entry? (place ++ ["indexes", fileName index]) =
      files.entry? (place ++ ["indexes", fileName index])) :
    Mirrored after root place index documents entries := by
  refine ⟨mirrored.sorted, mirrored.lookup, fun present => ?_, ?_⟩
  · exact (mirrored.filed present).keep keeps (own _)
  · rw [listed]
    exact mirrored.recorded

/-! ## Reading -/

theorem Mirrored.mem_iff (mirrored : Mirrored files root place index documents entries) :
    (id ∈ entries.map (·.1)) ↔ (documents id).isSome = true := by
  have lookup := mirrored.lookup id
  constructor
  · intro member
    obtain ⟨entry, listed, rfl⟩ := List.mem_map.mp member
    rw [Keyed.lookup_of_mem mirrored.sorted listed] at lookup
    rw [← Option.isSome_map, ← lookup]
    rfl
  · intro present
    obtain ⟨document, present⟩ := Option.isSome_iff_exists.mp present
    rw [present] at lookup
    exact List.mem_map.mpr ⟨_, Keyed.mem_of_lookup lookup, rfl⟩

theorem Mirrored.ids (mirrored : Mirrored files root place index documents entries)
    {shelf : Shelf} (same : shelf index = documents) : shelf.Ids index (entries.map (·.1)) := by
  subst documents
  exact ⟨List.pairwise_map.mpr mirrored.sorted, fun id => mirrored.mem_iff⟩

/-- Reading every entry finds all documents in the order of the entries. -/
theorem Mirrored.read_all (mirrored : Mirrored files root place index documents entries)
    (layout : Layout files root place) (followed : Followed index) :
    entries.mapM (fun (_, path) => readDocument files path) =
      .ok ((entries.map (·.1)).filterMap documents) := by
  have each : ∀ entry ∈ entries, ∃ document, documents entry.1 = some document ∧
      readDocument files entry.2 = .ok document := by
    intro entry member
    have lookup := mirrored.lookup entry.1
    rw [Keyed.lookup_of_mem mirrored.sorted member] at lookup
    obtain ⟨document, present, path⟩ := Option.map_eq_some_iff.mp lookup.symm
    exact ⟨document, present, path ▸ (mirrored.filed present).read layout followed⟩
  clear mirrored
  induction entries with
  | nil => rfl
  | cons entry rest ih =>
    obtain ⟨document, present, read⟩ := each entry List.mem_cons_self
    have more := ih fun entry member => each entry (List.mem_cons_of_mem _ member)
    obtain ⟨key, path⟩ := entry
    rw [List.mapM_cons, more]
    simp only [read, List.map_cons, List.filterMap_cons, present]
    rfl

end Mirrored

section Steps

variable {names : List String} {shelf : Shelf} {state : StoreState} {root : String}
  {place : Location}

theorem Mirrors.get (mirrors : Mirrors root place names shelf state)
    (named : ∀ name ∈ names, IndexName name) (index id : String) :
    Shelf.Answers names shelf (.get index id)
      (.found (state.store.get state.files index id)) shelf := by
  by_cases known : index ∈ names
  · obtain ⟨entries, found, mirrored⟩ := mirrors.known index known
    have answer : state.store.get state.files index id = .ok (shelf index id) := by
      rw [get_eq]
      simp only [found, Except.map, mirrored.lookup]
      cases present : shelf index id with
      | none => rfl
      | some document =>
        simp only [Option.map_some,
          (mirrored.filed present).read mirrors.layout (named index known).followed]
    rw [answer]
    exact .found known
  · have answer : state.store.get state.files index id = .error (.unknownIndex index) := by
      rw [get_eq]
      simp only [mirrors.unknown index known, Except.map]
    rw [answer]
    exact .getUnknown known

theorem Mirrors.getAll (mirrors : Mirrors root place names shelf state)
    (named : ∀ name ∈ names, IndexName name) (index : String) :
    Shelf.Answers names shelf (.getAll index)
      (.foundAll (state.store.getAll state.files index)) shelf := by
  rw [Store.getAll]
  by_cases known : index ∈ names
  · obtain ⟨entries, found, mirrored⟩ := mirrors.known index known
    have all := mirrored.read_all mirrors.layout (named index known).followed
    simp only [found, Bind.bind, Except.bind] at all ⊢
    rw [all]
    exact .foundAll known (mirrored.ids rfl)
  · simp only [mirrors.unknown index known, Bind.bind, Except.bind]
    exact .allUnknown known

theorem Mirrors.ids (mirrors : Mirrors root place names shelf state) (index : String) :
    Shelf.Answers names shelf (.ids index) (.listed (state.store.ids index)) shelf := by
  rw [Store.ids]
  by_cases known : index ∈ names
  · obtain ⟨entries, found, mirrored⟩ := mirrors.known index known
    simp only [found, Bind.bind, Except.bind]
    exact .listed known (mirrored.ids rfl)
  · simp only [mirrors.unknown index known, Bind.bind, Except.bind]
    exact .idsUnknown known

/-! ## Storing a document -/

/-- Without a fault, the paths can be used. -/
theorem usable_of_put (layout : Layout state.files root place) (rooted : state.store.root = root)
    {index id : String} {document : Json} {overwrite : Bool} {entries : DocumentIndex}
    (named : IndexName index) (valid : isValidId id = true)
    (known : state.store.entries index = .ok entries)
    (allowed : (entries.lookup id).isSome = true → overwrite = true)
    (regular : StoreAnswer.Regular (.done ((put index id document overwrite).run state).1)) :
    UsablePath (documentPath root index id) ∧ Followed (fileName id) := by
  rw [put_of_allowed valid known allowed, rooted, run_bind] at regular
  rcases placeFile_cases layout named.toPlainName (plain_fileName (noSlash_of_valid valid))
    (document.render true) with ⟨broken, after, failed⟩ | ⟨followedFile, usable, placed⟩
  · simp only [folder, documentPath_eq, failed, StoreAnswer.Regular] at regular
  · exact ⟨usable, followedFile⟩

theorem append_pair_eq_iff {place : Location} {name file other inner : String} :
    place ++ [name, file] = place ++ [other, inner] ↔ name = other ∧ file = inner := by
  simp

/-- Writing a file leaves an index alone that it does not belong to. -/
theorem Mirrored.putFile_other {files : FileTree} {index name file : String}
    {documents : String → Option Json} {entries : DocumentIndex}
    (mirrored : Mirrored files root place index documents entries)
    (layout : Layout files root place) (different : name ≠ index)
    (unlisted : ¬ (name = "indexes" ∧ file = fileName index)) (contents : Contents) :
    Mirrored (files.putFile place name file contents) root place index documents entries := by
  refine mirrored.keep (FileTree.extends_putFile layout name file contents).keeps
    (fun inner => ?_) ?_
  · rw [FileTree.entry?_putFile layout, if_neg, if_neg (by simp)]
    exact fun same => different (append_pair_eq_iff.mp same).1.symm
  · rw [FileTree.entry?_putFile layout, if_neg, if_neg (by simp)]
    intro same
    obtain ⟨name, file⟩ := append_pair_eq_iff.mp same
    exact unlisted ⟨name.symm, file.symm⟩

theorem Mirrored.put {files : FileTree} {index id : String} {document : Json}
    {documents : String → Option Json} {entries : DocumentIndex}
    (mirrored : Mirrored files root place index documents entries)
    (layout : Layout files root place) (named : IndexName index)
    (usable : UsablePath (documentPath root index id)) (followed : Followed (fileName id))
    (readable : Json.parse? (document.render true) = some document) :
    Mirrored (storedFiles files place index id document
        (Keyed.insert id (documentPath root index id) entries))
      root place index (fun key => if key = id then some document else documents key)
      (Keyed.insert id (documentPath root index id) entries) := by
  have moved := layout.putFile index (fileName id) (.text (document.render true))
  have first := FileTree.extends_putFile layout index (fileName id)
    (.text (document.render true))
  have second := FileTree.extends_putFile moved "indexes" (fileName index)
    (.text (entriesText (Keyed.insert id (documentPath root index id) entries)))
  refine ⟨Keyed.sorted_insert mirrored.sorted, fun key => ?_, fun {key found} present => ?_,
    .inr ?_⟩
  · by_cases same : key = id
    · subst key
      rw [Keyed.lookup_insert, if_pos rfl, Option.map_some]
    · rw [Keyed.lookup_insert_of_ne _ _ same, mirrored.lookup, if_neg same]
  · by_cases same : key = id
    · subst key
      obtain rfl : document = found := by simpa using present
      exact ⟨usable, followed, folder_storedFiles layout .., held_storedFiles layout named.apart ..,
        readable⟩
    · have old : documents key = some found := by simpa [same] using present
      refine (mirrored.filed old).keep (first.keeps.trans second.keeps) ?_
      have elsewhere : place ++ [index, fileName key] ≠ place ++ [index, fileName id] :=
        fun equal => same (fileName_injective (append_pair_eq_iff.mp equal).2)
      have unlisted : place ++ [index, fileName key] ≠ place ++ ["indexes", fileName index] :=
        fun equal => named.apart (append_pair_eq_iff.mp equal).1
      rw [storedFiles, FileTree.entry?_putFile moved, if_neg unlisted, if_neg (by simp),
        FileTree.entry?_putFile layout, if_neg elsewhere, if_neg (by simp)]
  · rw [storedFiles, FileTree.entry?_putFile moved, if_pos rfl]

/-- The entries of one index change, and its files; the others keep theirs. -/
theorem Mirrors.update {shelf after : Shelf} {files : FileTree} {index : String}
    {old entries : DocumentIndex} (mirrors : Mirrors root place names shelf state)
    (known : state.store.entries index = .ok old) (layout : Layout files root place)
    (own : Mirrored files root place index (after index) entries)
    (others : ∀ other ∈ names, other ≠ index → ∀ kept,
      Mirrored state.files root place other (shelf other) kept →
      Mirrored files root place other (after other) kept) :
    Mirrors root place names after ⟨state.store.withEntries index entries, files⟩ := by
  refine ⟨mirrors.rooted, layout, fun other foreign => ?_, fun other member => ?_⟩
  · have different : other ≠ index := by
      rintro rfl
      rw [mirrors.unknown other foreign] at known
      cases known
    rw [entries_withEntries_of_ne _ different]
    exact mirrors.unknown other foreign
  · by_cases same : other = index
    · subst other
      exact ⟨entries, entries_withEntries known entries, own⟩
    · obtain ⟨kept, found, mirrored⟩ := mirrors.known other member
      exact ⟨kept, (entries_withEntries_of_ne _ same _).trans found,
        others other member same kept mirrored⟩

theorem Mirrors.put (mirrors : Mirrors root place names shelf state)
    (named : ∀ name ∈ names, IndexName name)
    (listable : ∀ name ∈ names, UsablePath (indexFile root name)) (index id : String)
    (document : Json) (overwrite : Bool)
    (readable : Json.parse? (document.render true) = some document)
    (regular : StoreAnswer.Regular (.done ((put index id document overwrite).run state).1)) :
    ∃ after, Shelf.Answers names shelf (.put index id document overwrite)
        (.done ((put index id document overwrite).run state).1) after ∧
      Mirrors root place names after ((put index id document overwrite).run state).2 := by
  by_cases refused : isValidId id = false
  · rw [put_of_invalid refused]
    exact ⟨shelf, .putInvalid refused, mirrors⟩
  have valid : isValidId id = true := by simpa using refused
  by_cases foreign : index ∉ names
  · rw [put_of_unknown valid (mirrors.unknown index foreign)]
    exact ⟨shelf, .putUnknown valid foreign, mirrors⟩
  have member : index ∈ names := Classical.not_not.mp foreign
  obtain ⟨entries, known, mirrored⟩ := mirrors.known index member
  have present : (entries.lookup id).isSome = (shelf index id).isSome := by
    rw [mirrored.lookup, Option.isSome_map]
  by_cases kept : (shelf index id).isSome = true ∧ overwrite = false
  · obtain ⟨there, rfl⟩ := kept
    rw [put_of_present valid known (present.trans there)]
    exact ⟨shelf, .putKept valid member there, mirrors⟩
  have allowed (there : (shelf index id).isSome = true) : overwrite = true :=
    Bool.not_eq_false _ ▸ fun asked => kept ⟨there, asked⟩
  have layout := mirrors.layout
  have asked (there : (entries.lookup id).isSome = true) : overwrite = true :=
    allowed (present.symm.trans there)
  obtain ⟨usable, followed⟩ := usable_of_put layout mirrors.rooted (named index member) valid known
    asked regular
  rw [put_of_usable layout mirrors.rooted (named index member) valid known asked usable followed
    (listable index member)]
  refine ⟨_, .putStored valid member allowed, mirrors.update known
    ((layout.putFile ..).putFile ..) ?_ fun other otherMember different kept old => ?_⟩
  · rw [Shelf.set_same]
    exact mirrored.put layout (named index member) usable followed readable
  · -- Neither the document nor the index file is a file of another index.
    rw [Shelf.set_other _ different]
    refine (old.putFile_other layout (Ne.symm different) ?_ _).putFile_other (layout.putFile ..)
      (Ne.symm (named other otherMember).apart) ?_ _
    · exact fun both => (named index member).apart both.1
    · exact fun both => different (fileName_injective both.2).symm

/-! ## Deleting a document -/

/-- A document that is there is deleted, and its entry after it. -/
theorem remove_of_filed (layout : Layout state.files root place) (rooted : state.store.root = root)
    {index id : String} {document : Json} {entries : DocumentIndex} (named : IndexName index)
    (known : state.store.entries index = .ok entries)
    (listed : entries.lookup id = some (documentPath root index id))
    (filed : Filed state.files root place index id document)
    (listable : UsablePath (indexFile root index)) :
    (remove index id).run state =
      (.ok true, ⟨state.store.withEntries index (Keyed.erase id entries),
        (state.files.erase (place ++ [index, fileName id])).putFile place "indexes"
          (fileName index) (.text (entriesText (Keyed.erase id entries)))⟩) := by
  let next : StoreState := ⟨state.store, state.files.erase (place ++ [index, fileName id])⟩
  have moved : Layout next.files root place := layout.erase index (fileName id)
  have deleted := FileTree.removeFile_of_located
    (filed.located layout named.followed false) filed.held
  have saved := saveEntries_run_layout moved rooted named.noSlash named.followed_file listable
    (Keyed.erase id entries)
  simp only [next] at saved
  rw [remove_of_present known listed, run_bind, removeFile_run, deleted]
  simp only [run_bind, saved, run_pure]

/-- Deleting a file leaves the other indexes alone. -/
theorem Mirrored.erase_other {files : FileTree} {index other file : String}
    {documents : String → Option Json} {entries : DocumentIndex}
    (mirrored : Mirrored files root place other documents entries)
    (layout : Layout files root place) (different : other ≠ index) (apart : index ≠ "indexes") :
    Mirrored (files.erase (place ++ [index, file])) root place other documents entries := by
  refine mirrored.keep (FileTree.keeps_erase (layout.inner index file) (by simp))
    (fun inner => ?_) ?_
  · rw [FileTree.entry?_erase _ (by simp), if_neg]
    exact fun same => different (append_pair_eq_iff.mp same).1
  · rw [FileTree.entry?_erase _ (by simp), if_neg]
    exact fun same => apart (append_pair_eq_iff.mp same).1.symm

theorem Mirrored.remove {files : FileTree} {index : String}
    {documents : String → Option Json} {entries : DocumentIndex}
    (mirrored : Mirrored files root place index documents entries)
    (layout : Layout files root place) (named : IndexName index) (id : String) :
    Mirrored ((files.erase (place ++ [index, fileName id])).putFile place "indexes"
        (fileName index) (.text (entriesText (Keyed.erase id entries))))
      root place index (fun key => if key = id then none else documents key)
      (Keyed.erase id entries) := by
  have moved := layout.erase index (fileName id)
  have first := FileTree.keeps_erase (layout.inner index (fileName id)) (by simp)
  have second := FileTree.extends_putFile moved "indexes" (fileName index)
    (.text (entriesText (Keyed.erase id entries)))
  refine ⟨Keyed.sorted_erase mirrored.sorted, fun key => ?_, fun {key found} present => ?_,
    .inr ?_⟩
  · by_cases same : key = id
    · subst key
      rw [Keyed.lookup_erase, if_pos rfl, Option.map_none]
    · rw [Keyed.lookup_erase_of_ne same, mirrored.lookup, if_neg same]
  · have different : key ≠ id := by
      rintro rfl
      simp at present
    have old : documents key = some found := by simpa [different] using present
    refine (mirrored.filed old).keep (first.trans second.keeps) ?_
    have elsewhere : place ++ [index, fileName key] ≠ place ++ [index, fileName id] :=
      fun equal => different (fileName_injective (append_pair_eq_iff.mp equal).2)
    have unlisted : place ++ [index, fileName key] ≠ place ++ ["indexes", fileName index] :=
      fun equal => named.apart (append_pair_eq_iff.mp equal).1
    rw [FileTree.entry?_putFile moved, if_neg unlisted, if_neg (by simp),
      FileTree.entry?_erase _ (by simp), if_neg elsewhere]
  · rw [FileTree.entry?_putFile moved, if_pos rfl]

theorem Mirrors.remove (mirrors : Mirrors root place names shelf state)
    (named : ∀ name ∈ names, IndexName name)
    (listable : ∀ name ∈ names, UsablePath (indexFile root name)) (index id : String) :
    ∃ after, Shelf.Answers names shelf (.remove index id)
        (.done ((remove index id).run state).1) after ∧
      Mirrors root place names after ((remove index id).run state).2 := by
  by_cases foreign : index ∉ names
  · rw [remove_of_unknown (mirrors.unknown index foreign)]
    exact ⟨shelf, .removeUnknown foreign, mirrors⟩
  have member : index ∈ names := Classical.not_not.mp foreign
  obtain ⟨entries, known, mirrored⟩ := mirrors.known index member
  have listed := mirrored.lookup id
  have answer := @Shelf.Answers.removed names shelf index id member
  cases there : shelf index id with
  | none =>
    rw [there, Option.map_none] at listed
    rw [there, Shelf.set_none there] at answer
    rw [remove_of_absent known listed]
    exact ⟨shelf, answer, mirrors⟩
  | some document =>
    rw [there, Option.map_some] at listed
    rw [there] at answer
    have layout := mirrors.layout
    rw [remove_of_filed layout mirrors.rooted (named index member) known listed
      (mirrored.filed there) (listable index member)]
    have moved := layout.erase index (fileName id)
    refine ⟨_, answer, mirrors.update known (moved.putFile ..) ?_
      fun other otherMember different kept old => ?_⟩
    · rw [Shelf.set_same]
      exact mirrored.remove layout (named index member) id
    · rw [Shelf.set_other _ different]
      refine (old.erase_other layout different (named index member).apart).putFile_other moved
        (Ne.symm (named other otherMember).apart) ?_ _
      exact fun both => different (fileName_injective both.2).symm

/-! ## Opening a store -/

/-- An index file that is missing has no entries, whether its folder is there or not. -/
theorem readIndex_of_missing {files : FileTree} {index : String} (layout : Layout files root place)
    (named : IndexName index) (usable : UsablePath (indexFile root index))
    (missing : files.entry? (place ++ ["indexes", fileName index]) = none) :
    Store.readIndex files (indexFile root index) = .ok [] := by
  rcases layout.outer "indexes" with absent | folder
  · exact readIndex_of_noFolder layout absent named.noSlash usable
  · have located := layout.locate_inner followed_indexes named.followed_file usable folder true
    exact readIndex_of_absent (FileTree.readText_of_missing located missing)

/-- An index file that is there is found where its names say. -/
theorem located_of_held {files : FileTree} {index : String} (layout : Layout files root place)
    (named : IndexName index) (usable : UsablePath (indexFile root index)) {entry : Entry}
    (held : files.entry? (place ++ ["indexes", fileName index]) = some entry) :
    files.locate true (indexFile root index) = .ok (place ++ ["indexes", fileName index]) := by
  rcases layout.outer "indexes" with absent | folder
  · rw [layout.closed absent] at held
    cases held
  · exact layout.locate_inner followed_indexes named.followed_file usable folder true

/-- The entries of an index are what its index file holds; there are none if it is missing. -/
theorem readIndex_of_recorded {files : FileTree} {index : String} {entries : DocumentIndex}
    (sorted : Keyed.Sorted entries)
    (recorded : entries = [] ∧ files.entry? (place ++ ["indexes", fileName index]) = none ∨
      files.entry? (place ++ ["indexes", fileName index]) =
        some (.file (.text (entriesText entries))))
    (layout : Layout files root place) (named : IndexName index)
    (usable : UsablePath (indexFile root index)) :
    Store.readIndex files (indexFile root index) = .ok entries := by
  rcases recorded with ⟨rfl, missing⟩ | held
  · exact readIndex_of_missing layout named usable missing
  · exact readIndex_of_written (located_of_held layout named usable held) held sorted

theorem Mirrored.readIndex {files : FileTree} {index : String}
    {documents : String → Option Json} {entries : DocumentIndex}
    (mirrored : Mirrored files root place index documents entries)
    (layout : Layout files root place) (named : IndexName index)
    (usable : UsablePath (indexFile root index)) :
    Store.readIndex files (indexFile root index) = .ok entries :=
  readIndex_of_recorded mirrored.sorted mirrored.recorded layout named usable

theorem exists_of_mapM_ok {action : α → Except ε β} {items : List α} {results : List β}
    (all : items.mapM action = .ok results) :
    ∀ item ∈ items, ∃ result, action item = .ok result := by
  induction items generalizing results with
  | nil => simp
  | cons item rest ih =>
    rw [List.mapM_cons] at all
    cases first : action item with
    | error fault =>
      rw [first] at all
      cases all
    | ok result =>
      cases more : rest.mapM action with
      | error fault =>
        rw [first, more] at all
        cases all
      | ok others =>
        intro other member
        rcases List.mem_cons.mp member with rfl | member
        · exact ⟨result, first⟩
        · exact ih more other member

theorem read_of_load {files : FileTree} {store : Store}
    (loaded : load files root names = .ok store) :
    ∀ name ∈ names, ∃ entries, Store.readIndex files (indexFile root name) = .ok entries := by
  intro name member
  rw [load] at loaded
  cases all : names.mapM fun name => do
      return (name, ← Store.readIndex files (indexFile root name)) with
  | error fault =>
    rw [all] at loaded
    cases loaded
  | ok indexes =>
    obtain ⟨entry, found⟩ := exists_of_mapM_ok all name member
    cases read : Store.readIndex files (indexFile root name) with
    | error fault =>
      rw [read] at found
      cases found
    | ok entries => exact ⟨entries, rfl⟩

/-- Opening a store again finds the entries that were in memory. -/
theorem Mirrors.reopen (mirrors : Mirrors root place names shelf state)
    (named : ∀ name ∈ names, IndexName name)
    (usable : ∀ name ∈ names, UsablePath (indexFile root name)) :
    ∃ store, load state.files root names = .ok store ∧
      Mirrors root place names shelf ⟨store, state.files⟩ := by
  have all : ∀ name, ∃ entries, name ∈ names →
      Mirrored state.files root place name (shelf name) entries := by
    intro name
    by_cases member : name ∈ names
    · obtain ⟨entries, _, mirrored⟩ := mirrors.known name member
      exact ⟨entries, fun _ => mirrored⟩
    · exact ⟨[], fun found => absurd found member⟩
  obtain ⟨contents, mirrored⟩ := Classical.skolem.mp all
  refine ⟨_, load_of_read fun name member =>
    (mirrored name member).readIndex mirrors.layout (named name member) (usable name member),
    rfl, mirrors.layout, fun index foreign => ?_, fun index member => ?_⟩
  · rw [entries_of_names, if_neg foreign]
  · exact ⟨contents index, by rw [entries_of_names, if_pos member], mirrored index member⟩

theorem EmptyFolder.mirrored {files : FileTree} (empty : EmptyFolder files root place)
    (index : String) : Mirrored files root place index (Shelf.empty index) [] := by
  refine ⟨.nil, fun _ => rfl, fun present => ?_, .inl ⟨rfl, empty.bare "indexes" _⟩⟩
  cases present

/-- Opening a store looks for every index file, so their paths can be used. -/
theorem usable_of_load {files : FileTree} {store : Store}
    (loaded : load files root names = .ok store) {name : String} (member : name ∈ names)
    (noSlash : '/' ∉ name.toList) : UsablePath (indexFile root name) := by
  obtain ⟨entries, read⟩ := read_of_load loaded name member
  by_cases usable : UsablePath (indexFile root name)
  · exact usable
  · obtain ⟨fault, other, failed⟩ := FileTree.locate_of_unusable
      (Path.join_ne_empty (plain_fileName noSlash) _) usable
    rw [indexFile_eq, FileTree.innerPath] at read
    rw [Store.readIndex, FileTree.readText_of_unlocated (failed files true)] at read
    cases fault with
    | notFound => exact absurd rfl other
    | _ => cases read

/-- In an empty folder a store is opened without documents. -/
theorem EmptyFolder.opened {files : FileTree} {store : Store} (empty : EmptyFolder files root place)
    (noSlash : ∀ name ∈ names, '/' ∉ name.toList) (loaded : load files root names = .ok store) :
    Mirrors root place names Shelf.empty ⟨store, files⟩ := by
  have read : ∀ name ∈ names, Store.readIndex files (indexFile root name) = .ok [] :=
    fun name member => empty.readIndex (noSlash name member)
      (usable_of_load loaded member (noSlash name member))
  cases loaded.symm.trans (load_of_read read)
  refine ⟨rfl, empty.layout, fun index foreign => ?_, fun index member => ?_⟩
  · rw [entries_of_names, if_neg foreign]
  · exact ⟨[], by rw [entries_of_names, if_pos member], empty.mirrored index⟩

/-! ## Runs -/

theorem Mirrors.run (mirrors : Mirrors root place names shelf state)
    (named : ∀ name ∈ names, IndexName name)
    (usable : ∀ name ∈ names, UsablePath (indexFile root name)) (operation : StoreOperation)
    (readable : operation.Readable) (regular : (operation.run names state).1.Regular) :
    ∃ after, Shelf.Answers names shelf operation (operation.run names state).1 after ∧
      Mirrors root place names after (operation.run names state).2 := by
  cases operation with
  | put index id document overwrite =>
    exact mirrors.put named usable index id document overwrite readable regular
  | remove index id => exact mirrors.remove named usable index id
  | get index id => exact ⟨shelf, mirrors.get named index id, mirrors⟩
  | getAll index => exact ⟨shelf, mirrors.getAll named index, mirrors⟩
  | ids index => exact ⟨shelf, mirrors.ids index, mirrors⟩
  | reopen =>
    obtain ⟨store, loaded, again⟩ := mirrors.reopen named usable
    rw [← mirrors.rooted] at loaded
    refine ⟨shelf, ?_, ?_⟩
    · rw [StoreOperation.run, loaded]
      exact .reopened
    · rw [StoreOperation.run, loaded]
      exact again

theorem Mirrors.answers (mirrors : Mirrors root place names shelf state)
    (named : ∀ name ∈ names, IndexName name)
    (usable : ∀ name ∈ names, UsablePath (indexFile root name))
    (operations : List StoreOperation) (readable : ∀ operation ∈ operations, operation.Readable)
    (regular : ∀ answer ∈ StoreOperation.answers names operations state, answer.Regular) :
    Shelf.AnswersAll names shelf operations
      (StoreOperation.answers names operations state) := by
  induction operations generalizing shelf state with
  | nil => exact .nil
  | cons operation rest ih =>
    rw [StoreOperation.answers] at regular ⊢
    obtain ⟨after, answer, again⟩ := mirrors.run named usable operation
      (readable _ List.mem_cons_self) (regular _ List.mem_cons_self)
    exact .cons answer (ih again
      (fun other member => readable other (List.mem_cons_of_mem _ member))
      fun other member => regular other (List.mem_cons_of_mem _ member))

/-- A store that is opened in an empty folder, and is not rebuilt, answers like a map, whenever it
is opened again. The names of its indexes are single names, short enough for a file. -/
theorem answers_of_map {files : FileTree} {store : Store} (empty : EmptyFolder files root place)
    (named : ∀ name ∈ names, IndexName name) (loaded : load files root names = .ok store)
    (operations : List StoreOperation) (readable : ∀ operation ∈ operations, operation.Readable)
    (regular : ∀ answer ∈ StoreOperation.answers names operations ⟨store, files⟩,
      answer.Regular) :
    Shelf.AnswersAll names Shelf.empty operations
      (StoreOperation.answers names operations ⟨store, files⟩) := by
  have noSlash : ∀ name ∈ names, '/' ∉ name.toList := fun name member => (named name member).noSlash
  exact (empty.opened noSlash loaded).answers named
    (fun name member => usable_of_load loaded member (noSlash name member)) operations readable
    regular

end Steps

theorem mirrored_filesX :
    Mirrored filesX "." [] "a" (fun key => if key = "x" then some documentY else none)
      [("x", documentPath "." "a" "x")] :=
  (empty_working.mirrored "a").put empty_working.layout named_a usable_x followed_x
    readable_documentY

/-- A document that is put is there after the store was opened again. -/
theorem answers_of_map_working :
    let operations := [.put "a" "x" documentY false, .reopen, .get "a" "x"]
    EmptyFolder (.empty []) "." [] ∧ (∀ name ∈ ["a"], IndexName name) ∧
      load (.empty []) "." ["a"] = .ok ⟨".", [("a", [])]⟩ ∧
      (∀ operation ∈ operations, operation.Readable) ∧
      (∀ answer ∈ StoreOperation.answers ["a"] operations ⟨⟨".", [("a", [])]⟩, .empty []⟩,
        answer.Regular) ∧
      Shelf.AnswersAll ["a"] Shelf.empty operations
        (StoreOperation.answers ["a"] operations ⟨⟨".", [("a", [])]⟩, .empty []⟩) := by
  intro operations
  have named : ∀ name ∈ ["a"], IndexName name := by simpa using named_a
  have loaded : load (.empty []) "." ["a"] = .ok ⟨".", [("a", [])]⟩ :=
    load_working (by simpa using And.intro named_a.noSlash listable_a)
  have readable : ∀ operation ∈ operations, operation.Readable := by
    simp [operations, StoreOperation.Readable, readable_documentY]
  have regular : ∀ answer ∈ StoreOperation.answers ["a"] operations
      ⟨⟨".", [("a", [])]⟩, .empty []⟩, answer.Regular := by
    simp only [operations, StoreOperation.answers, List.mem_cons, List.not_mem_nil, or_false]
    rintro answer (rfl | rfl | rfl)
    · rw [StoreOperation.run_put, put_x rfl rfl]
      trivial
    · generalize (StoreOperation.run _ _ _).2 = next
      rw [StoreOperation.run]
      cases load next.files next.store.root ["a"] <;> trivial
    · rw [StoreOperation.run]
      trivial
  exact ⟨empty_working, named, loaded, readable, regular,
    answers_of_map empty_working named loaded operations readable regular⟩

/-- A single name that is too long for an index file: the store can be opened in an empty folder,
but not again after a document was put into another index. -/
theorem answers_differ_for_long_name :
    let names := ["a", letters 252]
    let operations := [.put "a" "x" documentY false, .reopen]
    names.Nodup ∧ (∀ name ∈ names, PlainName name ∧ name ≠ "indexes") ∧
      EmptyFolder (.empty []) "." [] ∧ (∀ operation ∈ operations, operation.Readable) ∧
      ∃ store, load (.empty []) "." names = .ok store ∧
        StoreOperation.answers names operations ⟨store, .empty []⟩ =
          [.done (.ok true), .opened (.error (.fault (indexFile "." (letters 252))))] ∧
        ¬ Shelf.AnswersAll names Shelf.empty operations
          (StoreOperation.answers names operations ⟨store, .empty []⟩) := by
  intro names operations
  have loaded : load (.empty []) "." names = .ok ⟨".", names.map fun name => (name, [])⟩ :=
    load_working listable_longNames
  have answered : StoreOperation.answers names operations
      ⟨⟨".", names.map fun name => (name, [])⟩, .empty []⟩ =
      [.done (.ok true), .opened (.error (.fault (indexFile "." (letters 252))))] := by
    have known : Store.entries ⟨".", names.map fun name => (name, [])⟩ "a" = .ok [] := by
      rw [entries_of_names, if_pos List.mem_cons_self]
    have stuck : load filesX "." names = .error (.fault (indexFile "." (letters 252))) :=
      load_longNames layout_filesX folder_filesX
        (mirrored_filesX.readIndex layout_filesX named_a listable_a)
    simp only [operations, StoreOperation.answers]
    rw [StoreOperation.run_put, put_x known rfl, StoreOperation.run]
    simp only [withEntries, stuck]
  refine ⟨nodup_longNames, plain_longNames, empty_working, ?_, _, loaded, answered, ?_⟩
  · simp [operations, StoreOperation.Readable, readable_documentY]
  · rw [answered]
    intro follows
    simp only [operations] at follows
    cases follows with
    | cons first rest =>
      cases rest with
      | cons second _ => cases second

end Store

end AnswerGraph
