import AnswerGraph.Command.Run
import AnswerGraph.Proofs.FolderSearch

/-!
Recovering an index. An index file says nothing that the folder of its index does not say: as long
as only the store changes the folder, it holds the documents of the index, each in the file of its
id, and no file of another. So an index whose file is lost is rebuilt as it was. The invariant of a
run adds to the agreement of memory, index files and documents that no file is left behind.
-/

namespace AnswerGraph

open FileTree (Layout UsablePath Followed Keeps Unshadowed)

namespace FileTree

theorem set_set (tree : FileTree) (location : Location) (entry : Entry) :
    (tree.set location entry).set location entry = tree.set location entry := by
  simp [set, List.filter_filter]

/-- Writing a file again changes nothing. -/
theorem putFile_putFile {tree : FileTree} {root : String} {place : Location}
    (layout : Layout tree root place) (name file : String) (contents : Contents) :
    (tree.putFile place name file contents).putFile place name file contents =
      tree.putFile place name file contents := by
  have folder := entry?_putFile layout name file contents (place ++ [name])
  rw [if_neg (by simp), if_pos rfl] at folder
  have kept : (tree.putFile place name file contents).withFolder (place ++ [name]) =
      tree.putFile place name file contents := by
    rw [withFolder, folder]
  rw [putFile, kept, putFile, set_set]

end FileTree

namespace Store

open StoreAction

theorem withEntries_withEntries (store : Store) (index : String) (entries : DocumentIndex) :
    (store.withEntries index entries).withEntries index entries =
      store.withEntries index entries := by
  simp only [withEntries, List.map_map, Store.mk.injEq, true_and]
  refine List.map_congr_left fun entry _ => ?_
  simp only [Function.comp_apply]
  split <;> rfl

/-! ## The folder of an index -/

section Shelved

variable {files after : FileTree} {root index : String} {place : Location}
  {documents : String → Option Json}

/-- A folder is as it was if none of its files change. -/
theorem Shelved.keep (shelved : Shelved files root place index documents)
    (keeps : Keeps files after)
    (own : ∀ file, after.entry? (place ++ [index, file]) = files.entry? (place ++ [index, file])) :
    Shelved after root place index documents where
  filed present := (shelved.filed present).keep keeps (own _)
  named := shelved.named
  owner present := by
    rw [own] at present
    exact shelved.owner present

theorem Shelved.putFile_other {name file : String} {contents : Contents}
    (shelved : Shelved files root place index documents) (layout : Layout files root place)
    (different : name ≠ index) :
    Shelved (files.putFile place name file contents) root place index documents := by
  refine shelved.keep (FileTree.extends_putFile layout name file contents).keeps fun inner => ?_
  rw [FileTree.entry?_putFile layout, if_neg, if_neg (by simp)]
  exact fun same => different (append_pair_eq_iff.mp same).1.symm

theorem Shelved.erase_other {name file : String}
    (shelved : Shelved files root place index documents) (layout : Layout files root place)
    (different : name ≠ index) :
    Shelved (files.erase (place ++ [name, file])) root place index documents := by
  refine shelved.keep (FileTree.keeps_erase (layout.inner name file) (by simp)) fun inner => ?_
  rw [FileTree.entry?_erase _ (by simp), if_neg]
  exact fun same => different (append_pair_eq_iff.mp same).1.symm

/-- A document that is put has the file that is new in the folder. -/
theorem Shelved.put {id : String} {document : Json} {entries : DocumentIndex}
    (shelved : Shelved files root place index documents) (layout : Layout files root place)
    (apart : index ≠ "indexes") (valid : isValidId id = true) (spells : Spells id document)
    (filed : ∀ {key found}, (if key = id then some document else documents key) = some found →
      Filed (storedFiles files place index id document entries) root place index key found) :
    Shelved (storedFiles files place index id document entries) root place index
      (fun key => if key = id then some document else documents key) where
  filed := filed
  named {key found} present := by
    by_cases same : key = id
    · obtain rfl : document = found := by simpa [same] using present
      exact same ▸ ⟨valid, spells⟩
    · exact shelved.named (by simpa [same] using present)
  owner {file} present := by
    rw [storedFiles, FileTree.entry?_putFile (layout.putFile ..), if_neg (by simp [apart]),
      if_neg (by simp), FileTree.entry?_putFile layout] at present
    by_cases written : file = fileName id
    · exact ⟨id, document, if_pos rfl, written⟩
    · rw [if_neg (by simp [written]), if_neg (by simp)] at present
      obtain ⟨key, found, old, name⟩ := shelved.owner present
      have different : key ≠ id := by
        rintro rfl
        exact written name
      exact ⟨key, found, by rw [if_neg different, old], name⟩

/-- A document that is deleted leaves no file. -/
theorem Shelved.remove {id : String} {contents : Contents}
    (shelved : Shelved files root place index documents) (layout : Layout files root place)
    (apart : index ≠ "indexes")
    (filed : ∀ {key found}, (if key = id then none else documents key) = some found →
      Filed ((files.erase (place ++ [index, fileName id])).putFile place "indexes"
        (fileName index) contents) root place index key found) :
    Shelved ((files.erase (place ++ [index, fileName id])).putFile place "indexes"
        (fileName index) contents) root place index
      (fun key => if key = id then none else documents key) where
  filed := filed
  named {key found} present := by
    have different : key ≠ id := by
      rintro rfl
      simp at present
    exact shelved.named (by simpa [different] using present)
  owner {file} present := by
    rw [FileTree.entry?_putFile (layout.erase ..), if_neg (by simp [apart]), if_neg (by simp),
      FileTree.entry?_erase _ (by simp)] at present
    by_cases deleted : file = fileName id
    · exact absurd (if_pos (by rw [deleted])) present
    · rw [if_neg (by simp [deleted])] at present
      obtain ⟨key, found, old, name⟩ := shelved.owner present
      have different : key ≠ id := by
        rintro rfl
        exact deleted name
      exact ⟨key, found, by rw [if_neg different, old], name⟩

end Shelved

theorem Mirrored.lists {files : FileTree} {root index : String} {place : Location}
    {documents : String → Option Json} {entries : DocumentIndex}
    (mirrored : Mirrored files root place index documents entries) :
    Lists root index documents entries :=
  ⟨mirrored.sorted, mirrored.lookup⟩

/-! ## The invariant -/

/-- A store that holds the documents of a map, and of whose folders nothing else is known but what
its indexes say. -/
structure Recoverable (root : String) (place : Location) (names : List String) (shelf : Shelf)
    (state : StoreState) : Prop extends Mirrors root place names shelf state where
  unshadowed : state.files.Unshadowed place
  shelved : ∀ index ∈ names, Shelved state.files root place index (shelf index)

/-- A store whose documents are in their folders, but one of whose indexes may be wrong. -/
structure Searchable (root : String) (place : Location) (names : List String) (shelf : Shelf)
    (index : String) (state : StoreState) : Prop where
  rooted : state.store.root = root
  layout : Layout state.files root place
  unshadowed : state.files.Unshadowed place
  shelved : ∀ name ∈ names, Shelved state.files root place name (shelf name)
  unknown : ∀ name, name ∉ names → state.store.entries name = .error (.unknownIndex name)
  known : ∃ entries, state.store.entries index = .ok entries
  others : ∀ name ∈ names, name ≠ index → ∃ entries, state.store.entries name = .ok entries ∧
    Mirrored state.files root place name (shelf name) entries

section Steps

variable {names : List String} {shelf : Shelf} {state after : StoreState} {root index : String}
  {place : Location}

theorem Recoverable.searchable (recoverable : Recoverable root place names shelf state)
    (member : index ∈ names) : Searchable root place names shelf index state where
  rooted := recoverable.rooted
  layout := recoverable.layout
  unshadowed := recoverable.unshadowed
  shelved := recoverable.shelved
  unknown := recoverable.unknown
  known := by
    obtain ⟨entries, known, _⟩ := recoverable.known index member
    exact ⟨entries, known⟩
  others name listed _ := recoverable.known name listed

/-- The state after an index was rebuilt with some entries. -/
def rebuiltState (place : Location) (index : String) (entries : DocumentIndex)
    (state : StoreState) : StoreState :=
  ⟨state.store.withEntries index entries,
    state.files.putFile place "indexes" (fileName index) (.text (entriesText entries))⟩

/-- Rebuilding an index finds the entries that its documents call for, whatever it held before. -/
theorem Searchable.rebuild_run (searchable : Searchable root place names shelf index state)
    {entries : DocumentIndex} (lists : Lists root index (shelf index) entries)
    (named : IndexName index) (listable : UsablePath (indexFile root index))
    (member : index ∈ names) :
    (rebuild index).run state = (.ok entries.length, rebuiltState place index entries state) := by
  obtain ⟨old, known⟩ := searchable.known
  have found := (searchable.shelved index member).foundEntries_eq lists searchable.layout
    searchable.unshadowed named
  have saved := saveEntries_run_layout searchable.layout searchable.rooted named.noSlash
    named.followed_file listable entries
  rw [rebuild, run_bind, run_entries, known]
  simp only [run_bind, run_state, run_lift, searchable.rooted, found, saved, run_pure,
    rebuiltState]

/-- A rebuilt index agrees with its documents, and its index file with it. -/
theorem Shelved.mirrored_rebuilt {files : FileTree} {documents : String → Option Json}
    {entries : DocumentIndex} (shelved : Shelved files root place index documents)
    (lists : Lists root index documents entries) (layout : Layout files root place)
    (apart : index ≠ "indexes") :
    Mirrored (files.putFile place "indexes" (fileName index) (.text (entriesText entries))) root
      place index documents entries where
  sorted := lists.sorted
  lookup := lists.lookup
  filed := (shelved.putFile_other layout apart.symm).filed
  recorded := .inr (by rw [FileTree.entry?_putFile layout, if_pos rfl])

/-- Once its index is rebuilt, nothing about a store is wrong any more. -/
theorem Searchable.recoverable (searchable : Searchable root place names shelf index state)
    {entries : DocumentIndex} (lists : Lists root index (shelf index) entries)
    (named : ∀ name ∈ names, IndexName name) (member : index ∈ names) :
    Recoverable root place names shelf (rebuiltState place index entries state) where
  rooted := searchable.rooted
  layout := searchable.layout.putFile ..
  unshadowed := searchable.unshadowed.putFile place "indexes" _ _
  unknown name foreign := by
    have different : name ≠ index := by
      rintro rfl
      exact foreign member
    exact (entries_withEntries_of_ne _ different _).trans (searchable.unknown name foreign)
  known name listed := by
    by_cases same : name = index
    · subst name
      obtain ⟨old, known⟩ := searchable.known
      exact ⟨entries, entries_withEntries known entries,
        (searchable.shelved index member).mirrored_rebuilt lists searchable.layout
          (named index member).apart⟩
    · obtain ⟨kept, held, mirrored⟩ := searchable.others name listed same
      refine ⟨kept, (entries_withEntries_of_ne _ same _).trans held, ?_⟩
      apply mirrored.putFile_other searchable.layout (named name listed).apart.symm
      intro both
      exact same (fileName_injective both.2).symm
  shelved name listed :=
    (searchable.shelved name listed).putFile_other searchable.layout
      (named name listed).apart.symm

/-! ## Runs of changes that succeed -/

theorem Recoverable.put (recoverable : Recoverable root place names shelf state)
    (named : ∀ name ∈ names, IndexName name)
    (listable : ∀ name ∈ names, UsablePath (indexFile root name)) {id : String} {document : Json}
    {overwrite stored : Bool} (spells : Spells id document)
    (readable : Json.parse? (document.render true) = some document)
    (ran : (Store.put index id document overwrite).run state = (.ok stored, after)) :
    ∃ next, Recoverable root place names next after := by
  have regular :
      StoreAnswer.Regular (.done ((Store.put index id document overwrite).run state).1) := by
    rw [ran]
    trivial
  obtain ⟨next, answer, mirrors⟩ :=
    recoverable.toMirrors.put named listable index id document overwrite readable regular
  have layout := recoverable.layout
  rw [ran] at answer mirrors
  suffices kept : after.files.Unshadowed place ∧
      ∀ name ∈ names, Shelved after.files root place name (next name) from
    ⟨next, mirrors, kept.1, kept.2⟩
  cases answer with
  | putKept valid member present =>
    obtain ⟨entries, known, mirrored⟩ := recoverable.known index member
    have there : (entries.lookup id).isSome = true := by
      rw [mirrored.lookup, Option.isSome_map, present]
    obtain rfl : state = after :=
      congrArg Prod.snd ((put_of_present valid known there).symm.trans ran)
    exact ⟨recoverable.unshadowed, recoverable.shelved⟩
  | putStored valid member allowed =>
    obtain ⟨entries, known, mirrored⟩ := recoverable.known index member
    have ownName := named index member
    have asked (there : (entries.lookup id).isSome = true) : overwrite = true := by
      rw [mirrored.lookup, Option.isSome_map] at there
      exact allowed there
    obtain ⟨usable, followed⟩ := usable_of_put layout recoverable.rooted ownName valid known asked
      regular
    obtain rfl := congrArg Prod.snd ((put_of_usable layout recoverable.rooted ownName valid known
      asked usable followed (listable index member)).symm.trans ran)
    refine ⟨(recoverable.unshadowed.putFile place index _ _).putFile place "indexes" _ _,
      fun name listed => ?_⟩
    by_cases same : name = index
    · subst name
      obtain ⟨_, _, filed⟩ := mirrors.known index member
      rw [Shelf.set_same] at filed ⊢
      exact (recoverable.shelved index member).put layout ownName.apart valid spells filed.filed
    · rw [Shelf.set_other _ same]
      exact ((recoverable.shelved name listed).putFile_other layout (Ne.symm same)).putFile_other
        (layout.putFile ..) (named name listed).apart.symm

theorem Recoverable.remove (recoverable : Recoverable root place names shelf state)
    (named : ∀ name ∈ names, IndexName name)
    (listable : ∀ name ∈ names, UsablePath (indexFile root name)) {id : String} {removed : Bool}
    (ran : (Store.remove index id).run state = (.ok removed, after)) :
    ∃ next, Recoverable root place names next after := by
  obtain ⟨next, answer, mirrors⟩ := recoverable.toMirrors.remove named listable index id
  have layout := recoverable.layout
  rw [ran] at answer mirrors
  suffices kept : after.files.Unshadowed place ∧
      ∀ name ∈ names, Shelved after.files root place name (next name) from
    ⟨next, mirrors, kept.1, kept.2⟩
  cases answer with
  | removed member =>
    obtain ⟨entries, known, mirrored⟩ := recoverable.known index member
    have ownName := named index member
    have listed := mirrored.lookup id
    cases there : shelf index id with
    | none =>
      rw [there, Option.map_none] at listed
      obtain rfl : state = after :=
        congrArg Prod.snd ((remove_of_absent known listed).symm.trans ran)
      rw [Shelf.set_none there]
      exact ⟨recoverable.unshadowed, recoverable.shelved⟩
    | some document =>
      rw [there, Option.map_some] at listed
      obtain rfl := congrArg Prod.snd ((remove_of_filed layout recoverable.rooted ownName known
        listed (mirrored.filed there) (listable index member)).symm.trans ran)
      refine ⟨(recoverable.unshadowed.erase (by simp)).putFile place "indexes" _ _,
        fun name other => ?_⟩
      by_cases same : name = index
      · subst name
        obtain ⟨_, _, filed⟩ := mirrors.known index member
        rw [Shelf.set_same] at filed ⊢
        exact (recoverable.shelved index member).remove layout ownName.apart filed.filed
      · rw [Shelf.set_other _ same]
        exact ((recoverable.shelved name other).erase_other layout (Ne.symm same)).putFile_other
          (layout.erase ..) (named name other).apart.symm

theorem Recoverable.rebuild (recoverable : Recoverable root place names shelf state)
    (named : ∀ name ∈ names, IndexName name)
    (listable : ∀ name ∈ names, UsablePath (indexFile root name)) {count : Nat}
    (ran : (Store.rebuild index).run state = (.ok count, after)) :
    Recoverable root place names shelf after := by
  by_cases member : index ∈ names
  · obtain ⟨entries, -, mirrored⟩ := recoverable.known index member
    have searchable := recoverable.searchable member
    obtain rfl := congrArg Prod.snd ((searchable.rebuild_run mirrored.lists (named index member)
      (listable index member) member).symm.trans ran)
    exact searchable.recoverable mirrored.lists named member
  · rw [Store.rebuild, run_bind, run_entries, recoverable.unknown index member] at ran
    cases ran

/-- The states that a store comes to from one that is opened, by changes that succeed. No document
is put under an id that it contradicts, and all can be read back from their own text. -/
inductive Maintained (root : String) (names : List String) (start : FileTree) : StoreState → Prop
  | opened {store : Store} (loaded : load start root names = .ok store) :
      Maintained root names start ⟨store, start⟩
  | put {state after : StoreState} {index id : String} {document : Json} {overwrite stored : Bool}
      (earlier : Maintained root names start state) (spells : Spells id document)
      (readable : Json.parse? (document.render true) = some document)
      (ran : (put index id document overwrite).run state = (.ok stored, after)) :
      Maintained root names start after
  | remove {state after : StoreState} {index id : String} {removed : Bool}
      (earlier : Maintained root names start state)
      (ran : (remove index id).run state = (.ok removed, after)) :
      Maintained root names start after
  | rebuild {state after : StoreState} {index : String} {count : Nat}
      (earlier : Maintained root names start state)
      (ran : (rebuild index).run state = (.ok count, after)) : Maintained root names start after

theorem EmptyFolder.shelved {files : FileTree} (empty : EmptyFolder files root place)
    (index : String) : Shelved files root place index (Shelf.empty index) where
  filed present := nomatch present
  named present := nomatch present
  owner present := absurd (empty.bare index _) present

theorem Maintained.loaded {start : FileTree} (run : Maintained root names start state) :
    ∃ store, load start root names = .ok store := by
  induction run with
  | opened loaded => exact ⟨_, loaded⟩
  | put _ _ _ _ ih => exact ih
  | remove _ _ ih => exact ih
  | rebuild _ _ ih => exact ih

/-- Whatever succeeds in an empty folder, no file is left behind. -/
theorem Maintained.recoverable {start : FileTree} (run : Maintained root names start state)
    (empty : EmptyFolder start root place) (named : ∀ name ∈ names, IndexName name)
    (listable : ∀ name ∈ names, UsablePath (indexFile root name)) :
    ∃ shelf, Recoverable root place names shelf state := by
  induction run with
  | opened loaded =>
    exact ⟨Shelf.empty, empty.opened (fun name member => (named name member).noSlash) loaded,
      empty.unshadowed, fun index _ => empty.shelved index⟩
  | put _ spells readable ran ih =>
    obtain ⟨shelf, recoverable⟩ := ih
    exact recoverable.put named listable spells readable ran
  | remove _ ran ih =>
    obtain ⟨shelf, recoverable⟩ := ih
    exact recoverable.remove named listable ran
  | rebuild _ ran ih =>
    obtain ⟨shelf, recoverable⟩ := ih
    exact ⟨shelf, recoverable.rebuild named listable ran⟩

/-! ## Losing an index file -/

/-- A text is written over a file, or the file is deleted. -/
inductive Loses (path : String) (before after : FileTree) : Prop
  | overwritten (text : String) (wrote : before.writeText path text = .ok after)
  | deleted (removed : before.removeFile path = .ok after)

/-- Nothing is lost but an index file, and what may be there instead is a text. -/
structure Lost (root : String) (place : Location) (index : String) (before after : FileTree) :
    Prop where
  layout : Layout after root place
  keeps : Keeps before after
  unshadowed : after.Unshadowed place
  elsewhere : ∀ other, other ≠ place ++ ["indexes", fileName index] →
    after.entry? other = before.entry? other
  left : after.entry? (place ++ ["indexes", fileName index]) = none ∨
    ∃ text, after.entry? (place ++ ["indexes", fileName index]) = some (.file (.text text))

/-- An index file whose path leads somewhere leads to its place, in a folder that is there. -/
theorem located_indexFile {files : FileTree} (layout : Layout files root place)
    (named : IndexName index) (listable : UsablePath (indexFile root index)) {through : Bool}
    {found : Location} (located : files.locate through (indexFile root index) = .ok found) :
    files.entry? (place ++ ["indexes"]) = some .folder ∧
      found = place ++ ["indexes", fileName index] := by
  rcases layout.outer "indexes" with absent | folder
  · rw [indexFile_eq, layout.locate_inner_absent followed_indexes
      named.followed_file.toPlainName listable absent] at located
    cases located
  · rw [indexFile_eq, layout.locate_inner followed_indexes named.followed_file listable
      folder] at located
    exact ⟨folder, (Except.ok.inj located).symm⟩

theorem Loses.lost {before after : FileTree} (loses : Loses (indexFile root index) before after)
    (layout : Layout before root place) (unshadowed : before.Unshadowed place)
    (named : IndexName index) (listable : UsablePath (indexFile root index)) :
    Lost root place index before after := by
  cases loses with
  | overwritten text wrote =>
    obtain ⟨found, located, -, rfl⟩ := FileTree.located_of_write wrote
    obtain ⟨folder, rfl⟩ := located_indexFile layout named listable located
    refine ⟨layout.set_file folder _ _, ?_, unshadowed.set (by simp) _, fun other different => ?_,
      .inr ⟨text, ?_⟩⟩
    · exact (FileTree.extends_set_file (layout.inner ..) _).keeps
    · rw [FileTree.entry?_set _ (by simp), if_neg different]
    · rw [FileTree.entry?_set _ (by simp), if_pos rfl]
  | deleted removed =>
    cases located : before.locate false (indexFile root index) with
    | error fault => simp [FileTree.removeFile, located, Bind.bind, Except.bind] at removed
    | ok found =>
      obtain ⟨-, rfl⟩ := located_indexFile layout named listable located
      rcases layout.inner "indexes" (fileName index) with absent | ⟨contents, held⟩
      · simp [FileTree.removeFile, located, absent, Bind.bind, Except.bind] at removed
      · cases (FileTree.removeFile_of_located located held).symm.trans removed
        refine ⟨layout.erase .., FileTree.keeps_erase (layout.inner ..) (by simp),
          unshadowed.erase (by simp), fun other different => ?_, .inl ?_⟩
        · rw [FileTree.entry?_erase _ (by simp), if_neg different]
        · rw [FileTree.entry?_erase _ (by simp), if_pos rfl]

/-- An index file can be read if there is none, or if it is a text. -/
theorem readIndex_of_left {files : FileTree} (layout : Layout files root place)
    (named : IndexName index) (listable : UsablePath (indexFile root index))
    (left : files.entry? (place ++ ["indexes", fileName index]) = none ∨
      ∃ text, files.entry? (place ++ ["indexes", fileName index]) = some (.file (.text text))) :
    ∃ entries, Store.readIndex files (indexFile root index) = .ok entries := by
  rcases left with missing | ⟨text, held⟩
  · exact ⟨[], readIndex_of_missing layout named listable missing⟩
  · rw [Store.readIndex,
      FileTree.readText_of_located (located_of_held layout named listable held) held]
    exact ⟨_, rfl⟩

/-- After the loss the store is opened again, with all documents in their folders. -/
theorem Recoverable.reopened {files : FileTree}
    (recoverable : Recoverable root place names shelf state)
    (named : ∀ name ∈ names, IndexName name)
    (listable : ∀ name ∈ names, UsablePath (indexFile root name)) (member : index ∈ names)
    (lost : Lost root place index state.files files) :
    ∃ store, load files root names = .ok store ∧
      Searchable root place names shelf index ⟨store, files⟩ := by
  have own : ∀ name ∈ names, ∀ file,
      files.entry? (place ++ [name, file]) = state.files.entry? (place ++ [name, file]) :=
    fun name listed file => lost.elsewhere _ fun same =>
      (named name listed).apart (append_pair_eq_iff.mp same).1
  have all : ∀ name, ∃ entries, name ∈ names →
      Store.readIndex files (indexFile root name) = .ok entries ∧
        (name ≠ index → Mirrored files root place name (shelf name) entries) := by
    intro name
    by_cases listed : name ∈ names
    · by_cases same : name = index
      · subst name
        obtain ⟨entries, read⟩ :=
          readIndex_of_left lost.layout (named index member) (listable index member) lost.left
        exact ⟨entries, fun _ => ⟨read, fun different => absurd rfl different⟩⟩
      · obtain ⟨entries, _, mirrored⟩ := recoverable.known name listed
        have kept := mirrored.keep lost.keeps (own name listed) (lost.elsewhere _ fun equal =>
          same (fileName_injective (append_pair_eq_iff.mp equal).2))
        exact ⟨entries, fun _ =>
          ⟨kept.readIndex lost.layout (named name listed) (listable name listed), fun _ => kept⟩⟩
    · exact ⟨[], fun found => absurd found listed⟩
  obtain ⟨contents, read⟩ := Classical.skolem.mp all
  refine ⟨_, load_of_read fun name listed => (read name listed).1, rfl, lost.layout,
    lost.unshadowed, fun name listed => ?_, fun name foreign => ?_, ⟨contents index, ?_⟩,
    fun name listed different => ⟨contents name, ?_, (read name listed).2 different⟩⟩
  · exact (recoverable.shelved name listed).keep lost.keeps (own name listed)
  · rw [entries_of_names, if_neg foreign]
  · rw [entries_of_names, if_pos member]
  · rw [entries_of_names, if_pos listed]

/-! ## What a recovered store shows -/

/-- Stores of the same documents have the same entries. -/
theorem Mirrors.entries_eq (mirrors : Mirrors root place names shelf state)
    (again : Mirrors root place names shelf after) (index : String) :
    after.store.entries index = state.store.entries index := by
  by_cases member : index ∈ names
  · obtain ⟨entries, known, mirrored⟩ := mirrors.known index member
    obtain ⟨others, found, remirrored⟩ := again.known index member
    rw [known, found, remirrored.lists.unique mirrored.lists]
  · rw [mirrors.unknown index member, again.unknown index member]

/-- Stores of the same documents show them. -/
theorem Mirrors.get_eq (mirrors : Mirrors root place names shelf state)
    (again : Mirrors root place names shelf after) (named : ∀ name ∈ names, IndexName name)
    (index id : String) :
    after.store.get after.files index id = state.store.get state.files index id := by
  have early := mirrors.get named index id
  have late := again.get named index id
  generalize state.store.get state.files index id = answer at early
  generalize after.store.get after.files index id = other at late
  cases early with
  | getUnknown unknown =>
    cases late with
    | getUnknown => rfl
    | found known => exact absurd known unknown
  | found known =>
    cases late with
    | getUnknown unknown => exact absurd known unknown
    | found => rfl

/-- Rebuilding a recovered index again leaves memory and files as they are. -/
theorem rebuiltState_rebuiltState (layout : Layout state.files root place) (index : String)
    (entries : DocumentIndex) :
    rebuiltState place index entries (rebuiltState place index entries state) =
      rebuiltState place index entries state := by
  simp only [rebuiltState, withEntries_withEntries, FileTree.putFile_putFile layout]

/-- An import without an id puts a document under an id that it does not contradict. -/
theorem spells_documentId {document : Json} {file id : String} {session later : Session}
    (ran : (Command.documentId none document file).run session = (.ok id, later)) :
    Spells id document := by
  intro given found
  simp only [Command.documentId, found, Option.none_or, Option.some_or] at ran
  exact Except.ok.inj (congrArg Prod.fst ran)

/-- Of a store that was opened in an empty folder and changed with success, an index file is lost:
some text is written over it, or it is deleted. Then the store can be opened again, rebuilding the
index finds as many documents as the index had, and every index has its ids and shows its documents
as before. Rebuilding it once more changes nothing. The names of the indexes are single names, short
enough for a file, and no document contradicts the id that it was put under; an import that is given
no id takes care of that. -/
theorem rebuild_after_loss {start lost : FileTree} (empty : EmptyFolder start root place)
    (named : ∀ name ∈ names, IndexName name) (run : Maintained root names start state)
    (member : index ∈ names) (loses : Loses (indexFile root index) state.files lost) :
    (∃ ids reopened rebuilt, state.store.ids index = .ok ids ∧
        load lost root names = .ok reopened ∧
        (rebuild index).run ⟨reopened, lost⟩ = (.ok ids.length, rebuilt) ∧
        (∀ other, rebuilt.store.ids other = state.store.ids other) ∧
        (∀ other id, rebuilt.store.get rebuilt.files other id =
          state.store.get state.files other id) ∧
        (rebuild index).run rebuilt = (.ok ids.length, rebuilt)) ∧
      ∀ document file id session later,
        (Command.documentId none document file).run session = (.ok id, later) →
        Spells id document := by
  refine ⟨?_, fun document file id session later => spells_documentId⟩
  obtain ⟨store, loaded⟩ := run.loaded
  have listable : ∀ name ∈ names, UsablePath (indexFile root name) := fun name listed =>
    usable_of_load loaded listed (named name listed).noSlash
  obtain ⟨shelf, recoverable⟩ := run.recoverable empty named listable
  obtain ⟨entries, known, mirrored⟩ := recoverable.known index member
  have left := loses.lost recoverable.layout recoverable.unshadowed (named index member)
    (listable index member)
  obtain ⟨reopened, opened, searchable⟩ := recoverable.reopened named listable member left
  have first := searchable.rebuild_run mirrored.lists (named index member)
    (listable index member) member
  have again := searchable.recoverable mirrored.lists named member
  have second := (again.searchable member).rebuild_run mirrored.lists (named index member)
    (listable index member) member
  rw [rebuiltState_rebuiltState searchable.layout] at second
  have ids : state.store.ids index = .ok (entries.map (·.1)) := by
    rw [Store.ids, known]
    rfl
  have counted : (entries.map (·.1)).length = entries.length := List.length_map ..
  refine ⟨_, reopened, _, ids, opened, counted ▸ first, fun other => ?_, fun other id => ?_,
    counted ▸ second⟩
  · rw [Store.ids, Store.ids, recoverable.toMirrors.entries_eq again.toMirrors]
  · exact recoverable.toMirrors.get_eq again.toMirrors named other id

end Steps

/-! ## An empty document whose index file is spoilt -/

/-- The state after an empty document was put under the id `x`, with indexes of some names. -/
def holdingX (names : List String) : StoreState :=
  ⟨withEntries ⟨".", names.map fun name => (name, [])⟩ "a" [("x", documentPath "." "a" "x")],
    storedFiles (.empty []) [] "a" "x" (.object []) [("x", documentPath "." "a" "x")]⟩

/-- The files after something else was written over the index file. -/
def spoiltX : FileTree :=
  FileTree.set (holdingX ["a"]).files ["indexes", "a.json"] (.file (.text "oops"))

theorem layout_holdingX (names : List String) : Layout (holdingX names).files "." [] :=
  layout_storedFiles empty_working.layout ..

theorem put_holdingX {names : List String} (member : "a" ∈ names) :
    (put "a" "x" (.object []) false).run ⟨⟨".", names.map fun name => (name, [])⟩, .empty []⟩ =
      (.ok true, holdingX names) := by
  have known : entries ⟨".", names.map fun name => (name, [])⟩ "a" = .ok [] := by
    rw [entries_of_names, if_pos member]
  let opened : StoreState := ⟨⟨".", names.map fun name => (name, [])⟩, .empty []⟩
  have layout : Layout opened.files "." [] := empty_working.layout
  exact put_of_usable layout rfl named_a (by decide) known (by simp) usable_x followed_x listable_a

theorem maintained_holdingX {names : List String} (member : "a" ∈ names)
    (listable : ∀ name ∈ names, '/' ∉ name.toList ∧ UsablePath (indexFile "." name)) :
    Maintained "." names (.empty []) (holdingX names) := by
  refine .put (.opened (load_working listable)) ?_ readable_empty (put_holdingX member)
  intro given found
  cases found

theorem loses_spoiltX (names : List String) :
    Loses (indexFile "." "a") (holdingX names).files spoiltX := by
  have located := (layout_holdingX names).locate_inner followed_indexes named_a.followed_file
    listable_a (listFolder_storedFiles empty_working.layout ..) true
  refine .overwritten "oops" (FileTree.write_of_located located ?_ (.text "oops"))
  exact ((layout_holdingX names).inner ..).not_folder

/-- The index that was spoilt has its document again after it is rebuilt. -/
theorem rebuild_after_loss_spoilt :
    EmptyFolder (.empty []) "." [] ∧ (∀ name ∈ ["a"], IndexName name) ∧
      Maintained "." ["a"] (.empty []) (holdingX ["a"]) ∧
      Loses (indexFile "." "a") (holdingX ["a"]).files spoiltX ∧
      ∃ reopened rebuilt, load spoiltX "." ["a"] = .ok reopened ∧
        (rebuild "a").run ⟨reopened, spoiltX⟩ = (.ok 1, rebuilt) ∧
        rebuilt.store.ids "a" = .ok ["x"] ∧
        rebuilt.store.get rebuilt.files "a" "x" = .ok (some (.object [])) := by
  have named : ∀ name ∈ ["a"], IndexName name := by simpa using named_a
  have run : Maintained "." ["a"] (.empty []) (holdingX ["a"]) :=
    maintained_holdingX List.mem_cons_self
      (by simpa using And.intro named_a.noSlash listable_a)
  have loses := loses_spoiltX ["a"]
  obtain ⟨⟨ids, reopened, rebuilt, listed, loaded, ran, sameIds, sameDocuments, -⟩, -⟩ :=
    rebuild_after_loss empty_working named run List.mem_cons_self loses
  have held : (holdingX ["a"]).store.ids "a" = .ok ["x"] := rfl
  obtain rfl := Except.ok.inj (held.symm.trans listed)
  have mirrored := (empty_working.mirrored "a").put empty_working.layout named_a usable_x
    followed_x readable_empty
  have read : readDocument (holdingX ["a"]).files (documentPath "." "a" "x") =
      .ok (.object []) :=
    (mirrored.filed (if_pos rfl)).read (layout_holdingX ["a"]) named_a.followed
  refine ⟨empty_working, named, run, loses, reopened, rebuilt, loaded, ran,
    (sameIds "a").trans held, ?_⟩
  rw [sameDocuments, get_eq]
  exact congrArg (Except.map some) read

/-- A single name that is too long for an index file: after a loss in another index the store cannot
be opened again, so that nothing is rebuilt. -/
theorem reopen_fails_for_long_name :
    let names := ["a", letters 252]
    names.Nodup ∧ (∀ name ∈ names, PlainName name ∧ name ≠ "indexes") ∧
      EmptyFolder (.empty []) "." [] ∧ "a" ∈ names ∧
      ∃ state lost, Maintained "." names (.empty []) state ∧
        Loses (indexFile "." "a") state.files lost ∧
        load lost "." names = .error (.fault (indexFile "." (letters 252))) := by
  intro names
  have layout := layout_holdingX names
  have folder : (holdingX names).files.entry? ([] ++ ["indexes"]) = some .folder :=
    listFolder_storedFiles empty_working.layout ..
  have spoilt : Layout spoiltX "." [] := layout.set_file folder "a.json" (.text "oops")
  obtain ⟨entries, read⟩ := readIndex_of_left spoilt named_a listable_a (.inr ⟨"oops", rfl⟩)
  refine ⟨nodup_longNames, plain_longNames, empty_working, List.mem_cons_self, holdingX names,
    spoiltX, maintained_holdingX List.mem_cons_self listable_longNames, loses_spoiltX names, ?_⟩
  exact load_longNames spoilt rfl read

end Store

end AnswerGraph
