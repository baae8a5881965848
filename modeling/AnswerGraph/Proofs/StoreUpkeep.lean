import AnswerGraph.Proofs.IndexFolder
import AnswerGraph.Proofs.StoreRecovery

/-!
States that a store comes to from an empty folder, by any changes and by being opened again. Every
change of one index keeps the others as they are, in memory and on disk, if the names of the indexes
are single names other than that of the folder of index files.
-/

namespace AnswerGraph

open FileTree (Layout UsablePath Followed Keeps Unshadowed Confined innerPath)

namespace StoreChange

open Store StoreAction

/-- The documents that a change puts are allowed under their ids, as they are read back. -/
def Permitted (puts : String → Json → Prop) : StoreChange → Prop
  | put _ id document _ => ∀ read, Json.parse? (document.render true) = some read → puts id read
  | remove _ _ => True
  | rebuild _ => True

/-- Any documents may be put. -/
theorem permitted_all (change : StoreChange) : change.Permitted fun _ _ => True := by
  cases change with
  | put => exact fun _ _ => trivial
  | remove => trivial
  | rebuild => trivial

/-- The files in folders that a change may write or delete. -/
def Touches : StoreChange → String → String → Prop
  | put index _ _ _, name, file => name = index ∨ name = "indexes" ∧ file = fileName index
  | remove index _, name, file => name = index ∨ name = "indexes" ∧ file = fileName index
  | rebuild index, name, file => name = "indexes" ∧ file = fileName index

theorem Touches.cases {change : StoreChange} {name file : String}
    (touches : change.Touches name file) :
    name = change.index ∨ name = "indexes" ∧ file = fileName change.index := by
  cases change with
  | put => exact touches
  | remove => exact touches
  | rebuild => exact .inr touches

/-- The index file is written at the end of every change. -/
theorem touches_indexFile (change : StoreChange) :
    change.Touches "indexes" (fileName change.index) := by
  cases change with
  | put => exact .inr ⟨rfl, rfl⟩
  | remove => exact .inr ⟨rfl, rfl⟩
  | rebuild => exact ⟨rfl, rfl⟩

end StoreChange

namespace Store

open StoreAction StoreChange

/-! ## States that a store comes to -/

/-- The states that a store comes to from one that is opened, by changes that may fail, and by being
opened again. The documents are put as `puts` allows. -/
inductive Changed (puts : String → Json → Prop) (root : String) (names : List String)
    (start : FileTree) : StoreState → Prop
  | opened {store : Store} (loaded : load start root names = .ok store) :
      Changed puts root names start ⟨store, start⟩
  | change {state : StoreState} (earlier : Changed puts root names start state)
      (change : StoreChange) (permitted : change.Permitted puts) :
      Changed puts root names start (change.run state).2
  | reopened {state : StoreState} {store : Store} (earlier : Changed puts root names start state)
      (loaded : load state.files root names = .ok store) :
      Changed puts root names start ⟨store, state.files⟩

/-- A single name other than that of the folder of index files. -/
structure FolderName (name : String) : Prop extends PlainName name where
  apart : name ≠ "indexes"

theorem IndexName.folderName {name : String} (named : IndexName name) : FolderName name :=
  ⟨named.toPlainName, named.apart⟩

/-- What a change keeps: every index has its files in its folder, and its index file holds its
entries if it can be written. -/
structure Tended (puts : String → Json → Prop) (root : String) (place : Location)
    (names : List String) (state : StoreState) : Prop where
  rooted : state.store.root = root
  layout : Layout state.files root place
  unshadowed : state.files.Unshadowed place
  unknown : ∀ index, index ∉ names → state.store.entries index = .error (.unknownIndex index)
  known : ∀ index ∈ names, ∃ entries, state.store.entries index = .ok entries ∧
    Housed puts state.files root place index entries ∧
    (Followed (fileName index) → Recorded state.files place index entries)

section Steps

variable {puts : String → Json → Prop} {names : List String} {state : StoreState} {root : String}
  {place : Location} {index id : String} {entries : DocumentIndex} {files : FileTree}
  {change : StoreChange}

theorem Recorded.keep {before after : FileTree} (recorded : Recorded before place index entries)
    (same : after.entry? (place ++ ["indexes", fileName index]) =
      before.entry? (place ++ ["indexes", fileName index])) :
    Recorded after place index entries := by
  rw [Recorded, same]
  exact recorded

/-! ## The work of a change -/

/-- A path in the folder of an index is deleted, or was not there. -/
theorem removeFile_addressed (layout : Layout state.files root place)
    (addressed : Addressed state.files root place index id)
    (removed : (StoreAction.removeFile (documentPath root index id)).run state =
      (.ok (), { state with files })) :
    state.files.entry? (place ++ [index, fileName id]) = none ∧ files = state.files ∨
      files = state.files.erase (place ++ [index, fileName id]) := by
  have located := addressed.located layout false
  rw [removeFile_run] at removed
  rcases layout.inner index (fileName id) with absent | ⟨contents, held⟩
  · have missing : state.files.removeFile (documentPath root index id) = .error .notFound := by
      simp [FileTree.removeFile, located, absent, Bind.bind, Except.bind]
    rw [missing] at removed
    exact .inl ⟨absent, (congrArg (·.2.files) removed).symm⟩
  · rw [FileTree.removeFile_of_located located held] at removed
    exact .inr (congrArg (·.2.files) removed).symm

/-- The work of a change is done in the folder of its index, and keeps that folder in order. -/
theorem Housed.prepare {old : DocumentIndex}
    (housed : Housed puts state.files root place change.index old)
    (known : state.store.entries change.index = .ok old) (rooted : state.store.root = root)
    (layout : Layout state.files root place) (unshadowed : state.files.Unshadowed place)
    (plain : PlainName change.index) (permitted : change.Permitted puts)
    (prepared : Prepares state change entries files) :
    Confined change.Touches root place state.files files ∧
      Housed puts files root place change.index entries := by
  cases prepared with
  | @put index id document overwrite _ _ valid held allowed placed =>
    cases held.symm.trans known
    rw [rooted] at placed ⊢
    obtain ⟨followedFolder, followed, usable⟩ := followed_of_placeFile layout plain
      (plain_fileName (noSlash_of_valid valid)) (congrArg Prod.fst placed)
    obtain rfl := congrArg (·.2.files) ((placeFile_run layout followedFolder followed usable
      (document.render true)).symm.trans placed)
    exact ⟨FileTree.confined_putFile layout unshadowed (.inl rfl) _,
      housed.put layout valid usable followedFolder followed permitted⟩
  | @remove index id path _ _ held found removed =>
    cases held.symm.trans known
    obtain ⟨key, rfl, addressed, -⟩ := housed.addressed _ (Keyed.mem_of_lookup found)
    rcases removeFile_addressed layout addressed removed with ⟨-, rfl⟩ | rfl
    · exact ⟨.refl layout unshadowed, housed.remove (.refl _) id fun _ => rfl⟩
    · refine ⟨FileTree.confined_erase layout unshadowed (.inl rfl), housed.remove
        (FileTree.keeps_erase (layout.inner index (fileName key)) (by simp)) id ?_⟩
      intro file present
      rw [FileTree.entry?_erase _ (by simp)] at present ⊢
      split at present
      · exact absurd rfl present
      · next other => rw [if_neg other]
  | @rebuild index _ _ held searched =>
    obtain ⟨found, again, refound⟩ := housed.found layout unshadowed plain
    rw [rooted] at searched
    obtain rfl := Except.ok.inj (again.symm.trans searched)
    exact ⟨.refl layout unshadowed, refound⟩

/-! ## A change -/

/-- Entries are kept in memory, and in the index file if its name can be followed. -/
theorem saveEntries_tended (layout : Layout state.files root place)
    (unshadowed : state.files.Unshadowed place) (rooted : state.store.root = root)
    (noSlash : '/' ∉ index.toList) (listable : UsablePath (indexFile root index))
    (entries : DocumentIndex) :
    ∃ saved files, (saveEntries index entries).run state =
        (saved, ⟨state.store.withEntries index entries, files⟩) ∧
      Confined (fun name file => name = "indexes" ∧ file = fileName index) root place state.files
        files ∧
      (Followed (fileName index) → Recorded files place index entries) := by
  obtain ⟨saved, files, ran, confined⟩ :=
    saveEntries_confined layout unshadowed rooted noSlash entries
  refine ⟨saved, files, ran, confined, ?_⟩
  intro followed
  obtain rfl := congrArg (·.2.files) ((saveEntries_run_layout layout rooted noSlash followed
    listable entries).symm.trans ran)
  exact .inr (by rw [FileTree.entry?_putFile layout, if_pos rfl])

theorem Tended.member (tended : Tended puts root place names state)
    (known : state.store.entries index = .ok entries) : index ∈ names := by
  apply Classical.byContradiction
  intro foreign
  rw [tended.unknown index foreign] at known
  cases known

/-- Where no file is touched nothing is lost. -/
theorem Tended.keep (tended : Tended puts root place names state)
    (confined : Confined (fun _ _ => False) root place state.files files) :
    Tended puts root place names ⟨state.store, files⟩ where
  rooted := tended.rooted
  layout := confined.layout
  unshadowed := confined.unshadowed
  unknown := tended.unknown
  known index member := by
    obtain ⟨entries, known, housed, recorded⟩ := tended.known index member
    refine ⟨entries, known, housed.keep confined.keeps fun _ => confined.elsewhere id, ?_⟩
    intro followed
    exact (recorded followed).keep (confined.elsewhere id)

/-- The entries of one index change, and the files that belong to it; the others keep theirs. -/
theorem Tended.update {old : DocumentIndex} (tended : Tended puts root place names state)
    (named : ∀ name ∈ names, FolderName name)
    (known : state.store.entries change.index = .ok old)
    (confined : Confined change.Touches root place state.files files)
    (housed : Housed puts files root place change.index entries)
    (recorded : Followed (fileName change.index) → Recorded files place change.index entries) :
    Tended puts root place names ⟨state.store.withEntries change.index entries, files⟩ where
  rooted := tended.rooted
  layout := confined.layout
  unshadowed := confined.unshadowed
  unknown other foreign := by
    have different : other ≠ change.index := fun same => foreign (same ▸ tended.member known)
    exact (entries_withEntries_of_ne _ different _).trans (tended.unknown other foreign)
  known other member := by
    by_cases same : other = change.index
    · subst other
      exact ⟨entries, entries_withEntries known entries, housed, recorded⟩
    · obtain ⟨kept, held, housed, recorded⟩ := tended.known other member
      refine ⟨kept, (entries_withEntries_of_ne _ same _).trans held,
        housed.keep confined.keeps fun file => confined.elsewhere ?_, ?_⟩
      · intro touches
        rcases touches.cases with own | ⟨listed, -⟩
        · exact same own
        · exact (named other member).apart listed
      · intro followed
        refine (recorded followed).keep (confined.elsewhere ?_)
        intro touches
        rcases touches.cases with own | ⟨-, file⟩
        · exact (named change.index (tended.member known)).apart own.symm
        · exact same (fileName_injective file)

/-- A change touches no file but those of its index; of the other indexes the entries stay too. -/
theorem Tended.change_step (tended : Tended puts root place names state)
    (named : ∀ name ∈ names, FolderName name)
    (listable : ∀ name ∈ names, UsablePath (indexFile root name))
    (permitted : change.Permitted puts) :
    Tended puts root place names (change.run state).2 ∧
      Confined change.Touches root place state.files (change.run state).2.files ∧
      ∀ other, other ≠ change.index →
        (change.run state).2.store.entries other = state.store.entries other := by
  -- A change does all of its work, or it stops early, and then at most a folder is new.
  by_cases possible : ∃ entries files, Prepares state change entries files
  · obtain ⟨entries, files, prepared⟩ := possible
    obtain ⟨old, known⟩ := prepared.known
    have member := tended.member known
    have plain := (named change.index member).toPlainName
    obtain ⟨_, again, housed, -⟩ := tended.known change.index member
    cases again.symm.trans known
    obtain ⟨worked, kept⟩ := housed.prepare known tended.rooted tended.layout tended.unshadowed
      plain permitted prepared
    obtain ⟨saved, final, ran, listed, recorded⟩ :=
      @saveEntries_tended ⟨state.store, files⟩ root place change.index worked.layout
        worked.unshadowed tended.rooted plain.noSlash (listable change.index member) entries
    have confined : Confined change.Touches root place state.files final :=
      worked.trans (listed.mono fun ⟨name, file⟩ => name ▸ file ▸ touches_indexFile change)
    have own (file : String) : final.entry? (place ++ [change.index, file]) =
        files.entry? (place ++ [change.index, file]) :=
      listed.elsewhere fun wrote => (named change.index member).apart wrote.1
    rw [run_of_prepares prepared, ran]
    refine ⟨tended.update named known confined (kept.keep listed.keeps own) recorded, confined, ?_⟩
    intro other different
    exact entries_withEntries_of_ne _ different _
  · have unprepared : ∀ entries files, ¬ Prepares state change entries files :=
      fun entries files prepared => possible ⟨entries, files, prepared⟩
    rcases run_of_unprepared unprepared with same | ⟨⟨entries, known⟩, made⟩
    · rw [same]
      exact ⟨tended, .refl tended.layout tended.unshadowed, fun _ _ => rfl⟩
    · have plain := (named change.index (tended.member known)).toPlainName
      have confined : Confined (fun _ _ => False) root place state.files
          (state.files.makeFolders (Path.join root change.index)).1 :=
        FileTree.confined_makeFolders tended.layout tended.unshadowed plain
      rw [tended.rooted, folder] at made
      generalize (state.files.makeFolders (Path.join root change.index)).1 = files at made confined
      rw [made]
      exact ⟨tended.keep confined, confined.mono False.elim, fun _ _ => rfl⟩

/-! ## Opening the store again -/

/-- An index file with a name that cannot be followed can be looked for only while there is no
folder of index files, and then has no entries. -/
theorem eq_nil_of_readIndex (layout : Layout files root place) (plain : PlainName index)
    (listable : UsablePath (indexFile root index)) (unfollowed : ¬ Followed (fileName index))
    (read : Store.readIndex files (indexFile root index) = .ok entries) : entries = [] := by
  rcases layout.outer "indexes" with absent | present
  · have nothing := readIndex_of_noFolder layout absent plain.noSlash listable
    exact Except.ok.inj (read.symm.trans nothing)
  · have long : FileTree.maxName < (fileName index).utf8ByteSize :=
      Nat.not_le.mp fun short => unfollowed ⟨plain_fileName plain.noSlash, short⟩
    cases (readIndex_of_long layout present plain.noSlash long listable).symm.trans read

/-- What is read from an index file goes with what is in the folder of the index. -/
theorem Tended.reread (tended : Tended puts root place names state)
    (named : ∀ name ∈ names, FolderName name)
    (listable : ∀ name ∈ names, UsablePath (indexFile root name)) (member : index ∈ names)
    (read : Store.readIndex state.files (indexFile root index) = .ok entries) :
    Housed puts state.files root place index entries ∧
      (Followed (fileName index) →
        state.store.entries index = .ok entries ∧ Recorded state.files place index entries) := by
  obtain ⟨old, known, housed, recorded⟩ := tended.known index member
  have plain := named index member
  by_cases followed : Followed (fileName index)
  · have reread := readIndex_of_recorded housed.sorted (recorded followed) tended.layout
      ⟨plain.toPlainName, plain.apart, followed.short⟩ (listable index member)
    obtain rfl := Except.ok.inj (reread.symm.trans read)
    exact ⟨housed, fun _ => ⟨known, recorded followed⟩⟩
  · obtain rfl := eq_nil_of_readIndex tended.layout plain.toPlainName (listable index member)
      followed read
    refine ⟨⟨.nil, ?_, housed.filed⟩, fun short => absurd short followed⟩
    intro entry held
    cases held

/-- A store that is opened has the entries that are read. -/
theorem eq_of_load {store : Store} (loaded : load files root names = .ok store) :
    ∃ contents : String → DocumentIndex,
      store = ⟨root, names.map fun name => (name, contents name)⟩ ∧
        ∀ name ∈ names, Store.readIndex files (indexFile root name) = .ok (contents name) := by
  have all : ∀ name, ∃ entries, name ∈ names →
      Store.readIndex files (indexFile root name) = .ok entries := by
    intro name
    by_cases member : name ∈ names
    · obtain ⟨entries, read⟩ := read_of_load loaded name member
      exact ⟨entries, fun _ => read⟩
    · exact ⟨[], fun found => absurd found member⟩
  obtain ⟨contents, read⟩ := Classical.skolem.mp all
  exact ⟨contents, Except.ok.inj (loaded.symm.trans (load_of_read read)), read⟩

theorem Tended.reopen (tended : Tended puts root place names state)
    (named : ∀ name ∈ names, FolderName name)
    (listable : ∀ name ∈ names, UsablePath (indexFile root name)) {store : Store}
    (loaded : load state.files root names = .ok store) :
    Tended puts root place names ⟨store, state.files⟩ := by
  obtain ⟨contents, rfl, read⟩ := eq_of_load loaded
  refine ⟨rfl, tended.layout, tended.unshadowed, ?_, ?_⟩
  · intro index foreign
    rw [entries_of_names, if_neg foreign]
  · intro index member
    obtain ⟨housed, kept⟩ := tended.reread named listable member (read index member)
    refine ⟨contents index, ?_, housed, fun followed => (kept followed).2⟩
    rw [entries_of_names, if_pos member]

/-- If all index files can be written then the store can be opened again, with the entries that are
in memory. -/
theorem Tended.load_entries (tended : Tended puts root place names state)
    (named : ∀ name ∈ names, IndexName name)
    (listable : ∀ name ∈ names, UsablePath (indexFile root name)) :
    ∃ store, load state.files root names = .ok store ∧
      ∀ index, store.entries index = state.store.entries index := by
  have all : ∀ name, ∃ entries, name ∈ names → state.store.entries name = .ok entries ∧
      Store.readIndex state.files (indexFile root name) = .ok entries := by
    intro name
    by_cases member : name ∈ names
    · obtain ⟨entries, known, housed, recorded⟩ := tended.known name member
      have short := (named name member).followed_file
      exact ⟨entries, fun _ => ⟨known, readIndex_of_recorded housed.sorted (recorded short)
        tended.layout (named name member) (listable name member)⟩⟩
    · exact ⟨[], fun found => absurd found member⟩
  obtain ⟨contents, read⟩ := Classical.skolem.mp all
  refine ⟨_, load_of_read fun name member => (read name member).2, ?_⟩
  intro index
  rw [entries_of_names]
  split
  · next member => exact (read index member).1.symm
  · next foreign => exact (tended.unknown index foreign).symm

/-! ## Entries in order -/

/-- What holds of every store, whatever lies in its folder: it has entries for the indexes that it
was opened with, sorted by id. -/
structure Arranged (root : String) (names : List String) (store : Store) : Prop where
  rooted : store.root = root
  member : ∀ {index entries}, store.entries index = .ok entries → index ∈ names
  sorted : ∀ {index entries}, store.entries index = .ok entries → Keyed.Sorted entries

theorem sorted_of_readIndex {path : String} (read : Store.readIndex files path = .ok entries) :
    Keyed.Sorted entries := by
  rw [Store.readIndex] at read
  split at read
  · cases read
    exact Keyed.sorted_ofList _
  · cases read
    exact .nil
  · cases read

theorem sorted_of_foundEntries {path : String} (searched : foundEntries files path = .ok entries) :
    Keyed.Sorted entries := by
  rcases foundEntries_cases searched with ⟨-, rfl⟩ | ⟨paths, -, -, rfl⟩
  · exact .nil
  · exact Keyed.sorted_ofList _

theorem arranged_of_load {store : Store} (loaded : load files root names = .ok store) :
    Arranged root names store := by
  obtain ⟨contents, rfl, read⟩ := eq_of_load loaded
  have own {index : String} {entries : DocumentIndex}
      (known : Store.entries ⟨root, names.map fun name => (name, contents name)⟩ index =
        .ok entries) : index ∈ names ∧ contents index = entries := by
    rw [entries_of_names] at known
    split at known
    · next member => exact ⟨member, Except.ok.inj known⟩
    · cases known
  refine ⟨rfl, fun known => (own known).1, ?_⟩
  intro index entries known
  obtain ⟨member, rfl⟩ := own known
  exact sorted_of_readIndex (read index member)

theorem Arranged.withEntries {store : Store} (arranged : Arranged root names store)
    {old : DocumentIndex} (known : store.entries index = .ok old) (sorted : Keyed.Sorted entries) :
    Arranged root names (store.withEntries index entries) where
  rooted := arranged.rooted
  member {other found} listed := by
    by_cases same : other = index
    · exact same ▸ arranged.member known
    · exact arranged.member ((entries_withEntries_of_ne store same entries).symm.trans listed)
  sorted {other found} listed := by
    by_cases same : other = index
    · subst other
      cases (entries_withEntries known entries).symm.trans listed
      exact sorted
    · exact arranged.sorted ((entries_withEntries_of_ne store same entries).symm.trans listed)

theorem Arranged.prepare (arranged : Arranged root names state.store)
    (prepared : Prepares state change entries files) : Keyed.Sorted entries := by
  cases prepared with
  | put _ known => exact Keyed.sorted_insert (arranged.sorted known)
  | remove known => exact Keyed.sorted_erase (arranged.sorted known)
  | rebuild _ searched => exact sorted_of_foundEntries searched

/-- A change leaves the entries in order, whether it succeeds or not. -/
theorem Arranged.change_step (arranged : Arranged root names state.store) (change : StoreChange) :
    Arranged root names (change.run state).2.store := by
  by_cases possible : ∃ entries files, Prepares state change entries files
  · obtain ⟨entries, files, prepared⟩ := possible
    obtain ⟨old, known⟩ := prepared.known
    obtain ⟨saved, final, ran⟩ := saveEntries_run_files change.index entries ⟨state.store, files⟩
    rw [run_of_prepares prepared, ran]
    exact arranged.withEntries known (arranged.prepare prepared)
  · have unprepared : ∀ entries files, ¬ Prepares state change entries files :=
      fun entries files prepared => possible ⟨entries, files, prepared⟩
    rcases run_of_unprepared unprepared with same | ⟨-, made⟩
    · rw [same]
      exact arranged
    · rw [made]
      exact arranged

theorem Changed.arranged {start : FileTree} (run : Changed puts root names start state) :
    Arranged root names state.store := by
  induction run with
  | opened loaded => exact arranged_of_load loaded
  | change _ change _ ih => exact ih.change_step change
  | reopened _ loaded => exact arranged_of_load loaded

/-! ## Runs -/

/-- A store that is opened in an empty folder has nothing in its folders. -/
theorem EmptyFolder.tended {start : FileTree} {store : Store}
    (empty : EmptyFolder start root place) (named : ∀ name ∈ names, FolderName name)
    (loaded : load start root names = .ok store) :
    Tended puts root place names ⟨store, start⟩ := by
  obtain ⟨contents, rfl, read⟩ := eq_of_load loaded
  refine ⟨rfl, empty.layout, empty.unshadowed, ?_, ?_⟩
  · intro index foreign
    rw [entries_of_names, if_neg foreign]
  · intro index member
    have noSlash := (named index member).noSlash
    have nothing : contents index = [] := Except.ok.inj ((read index member).symm.trans
      (empty.readIndex noSlash (usable_of_load loaded member noSlash)))
    refine ⟨[], ?_, ⟨.nil, ?_, ?_⟩, fun _ => .inl ⟨rfl, empty.bare "indexes" _⟩⟩
    · rw [entries_of_names, if_pos member, nothing]
    · intro entry listed
      cases listed
    · intro file present
      exact absurd (empty.bare index [file]) present

theorem Changed.loaded {start : FileTree} (run : Changed puts root names start state) :
    ∃ store, load start root names = .ok store := by
  induction run with
  | opened loaded => exact ⟨_, loaded⟩
  | change _ _ _ ih => exact ih
  | reopened _ _ ih => exact ih

/-- The paths of all index files can be used, or the store could not be opened at all. -/
theorem Changed.listable {start : FileTree} (run : Changed puts root names start state)
    (named : ∀ name ∈ names, FolderName name) :
    ∀ name ∈ names, UsablePath (indexFile root name) := by
  obtain ⟨store, loaded⟩ := run.loaded
  intro name member
  exact usable_of_load loaded member (named name member).noSlash

/-- Whatever becomes of a store that starts out empty, it is in order. -/
theorem Changed.tended {start : FileTree} (run : Changed puts root names start state)
    (empty : EmptyFolder start root place) (named : ∀ name ∈ names, FolderName name) :
    Tended puts root place names state := by
  have listable := run.listable named
  induction run with
  | opened loaded => exact empty.tended named loaded
  | change _ change permitted ih => exact (ih.change_step named listable permitted).1
  | reopened _ loaded ih => exact ih.reopen named listable loaded

theorem changed_holdingX {names : List String} (member : "a" ∈ names)
    (listable : ∀ name ∈ names, '/' ∉ name.toList ∧ UsablePath (indexFile "." name))
    (permitted : (StoreChange.put "a" "x" (.object []) false).Permitted puts) :
    Changed puts "." names (.empty []) (holdingX names) := by
  have opened : Changed puts "." names (.empty [])
      ⟨⟨".", names.map fun name => (name, [])⟩, .empty []⟩ := .opened (load_working listable)
  have run := opened.change _ permitted
  rw [StoreChange.run, put_holdingX member] at run
  exact run

end Steps

end Store

end AnswerGraph
