import AnswerGraph.Proofs.StoreFrame
import AnswerGraph.Proofs.StoreMap

/-!
Changes of a store that fail. A change first does its work on the documents, and then keeps the new
entries of its index, in memory before the index file. So the entries in memory stay as they were if
the work fails, and are the new ones if only the index file cannot be written.
-/

namespace AnswerGraph

open FileTree (Extends Keeps Layout UsablePath Followed innerPath)

namespace FileTree

/-- Of a layout, a folder and a file in it decide what is read there. -/
theorem Layout.readText_inner {before after : FileTree} {root name file : String}
    {place : Location} (layout : Layout before root place) (kept : Layout after root place)
    (followed : Followed name) (followedFile : Followed file)
    (outer : after.entry? (place ++ [name]) = before.entry? (place ++ [name]))
    (inner : after.entry? (place ++ [name, file]) = before.entry? (place ++ [name, file])) :
    after.readText (innerPath root name file) = before.readText (innerPath root name file) := by
  by_cases usable : UsablePath (innerPath root name file)
  · rcases layout.outer name with absent | folder
    · have early := layout.locate_inner_absent followed followedFile.toPlainName usable absent true
      have late := kept.locate_inner_absent followed followedFile.toPlainName usable
        (outer.trans absent) true
      rw [readText_of_unlocated early, readText_of_unlocated late]
    · have early := layout.locate_inner followed followedFile usable folder true
      have late := kept.locate_inner followed followedFile usable (outer.trans folder) true
      rw [readText, readText, read, read, early, late]
      simp only [Bind.bind, Except.bind, inner]
  · obtain ⟨fault, -, failed⟩ :=
      locate_of_unusable (Path.join_ne_empty followedFile.toPlainName _) usable
    rw [innerPath, readText_of_unlocated (failed before true),
      readText_of_unlocated (failed after true)]

end FileTree

/-- A change of one index of a store. -/
inductive StoreChange where
  | put (index id : String) (document : Json) (overwrite : Bool)
  | remove (index id : String)
  | rebuild (index : String)

namespace StoreChange

open Store StoreAction

def index : StoreChange → String
  | put index _ _ _ => index
  | remove index _ => index
  | rebuild index => index

/-- Whether the change succeeded, and the state after it. -/
def run (state : StoreState) : StoreChange → Except StoreError Unit × StoreState
  | put index id document overwrite =>
    let (result, after) := (Store.put index id document overwrite).run state
    (result.map fun _ => (), after)
  | remove index id =>
    let (result, after) := (Store.remove index id).run state
    (result.map fun _ => (), after)
  | rebuild index =>
    let (result, after) := (Store.rebuild index).run state
    (result.map fun _ => (), after)

/-- The work of a change succeeds: what is left is to keep the entries. -/
inductive Prepares (state : StoreState) : StoreChange → DocumentIndex → FileTree → Prop
  | put {index id : String} {document : Json} {overwrite : Bool} {entries : DocumentIndex}
      {files : FileTree} (valid : isValidId id = true)
      (known : state.store.entries index = .ok entries)
      (allowed : (entries.lookup id).isSome = true → overwrite = true)
      (placed : (placeFile (some (folder state.store.root index))
          (documentPath state.store.root index id) (document.render true)).run state =
        (.ok (), { state with files })) :
      Prepares state (.put index id document overwrite)
        (Keyed.insert id (documentPath state.store.root index id) entries) files
  | remove {index id path : String} {entries : DocumentIndex} {files : FileTree}
      (known : state.store.entries index = .ok entries) (found : entries.lookup id = some path)
      (removed : (StoreAction.removeFile path).run state = (.ok (), { state with files })) :
      Prepares state (.remove index id) (Keyed.erase id entries) files
  | rebuild {index : String} {entries found : DocumentIndex}
      (known : state.store.entries index = .ok entries)
      (searched : foundEntries state.files (folder state.store.root index) = .ok found) :
      Prepares state (.rebuild index) found state.files

end StoreChange

namespace StoreAction

/-! ## Steps that leave the entries alone -/

/-- Placing a file changes files only, and if it fails then it has made folders at most. -/
theorem placeFile_run_files (folder : Option String) (path text : String) (state : StoreState) :
    ∃ result files, (placeFile folder path text).run state = (result, { state with files }) ∧
      ∀ fault, result = .error fault →
        files = (folder.elim state.files fun folder => (state.files.makeFolders folder).1) := by
  have written (state : StoreState) : ∃ result files,
      (writeText path text).run state = (result, { state with files }) ∧
        ∀ fault, result = .error fault → files = state.files := by
    rw [writeText_run]
    cases state.files.writeText path text with
    | ok files => exact ⟨_, files, rfl, fun fault failed => nomatch failed⟩
    | error fault => exact ⟨_, state.files, rfl, fun _ _ => rfl⟩
  cases folder with
  | none => exact written state
  | some folder =>
    simp only [placeFile, run_bind, makeFolders_run]
    cases (state.files.makeFolders folder).2 with
    | ok => exact written { state with files := (state.files.makeFolders folder).1 }
    | error fault => exact ⟨_, _, rfl, fun _ _ => rfl⟩

/-- Entries are kept in memory, whatever becomes of the index file. -/
theorem saveEntries_run_files (index : String) (entries : DocumentIndex) (state : StoreState) :
    ∃ saved files, (saveEntries index entries).run state =
      (saved, ⟨state.store.withEntries index entries, files⟩) := by
  obtain ⟨saved, files, ran, _⟩ := placeFile_run_files
    (Path.parent? (Store.indexFile state.store.root index))
    (Store.indexFile state.store.root index) (entriesText entries)
    { state with store := state.store.withEntries index entries }
  exact ⟨saved, files, by rw [saveEntries_run, ran]⟩

theorem removeFile_run_files (path : String) (state : StoreState) :
    ∃ result files, (StoreAction.removeFile path).run state = (result, { state with files }) ∧
      ∀ fault, result = .error fault → files = state.files := by
  rw [Store.removeFile_run]
  cases state.files.removeFile path with
  | ok files => exact ⟨_, files, rfl, fun fault failed => nomatch failed⟩
  | error fault => cases fault <;> exact ⟨_, state.files, rfl, fun _ _ => rfl⟩

end StoreAction

namespace StoreChange

open Store StoreAction

variable {change : StoreChange} {state : StoreState} {entries : DocumentIndex} {files : FileTree}

/-! ## Work and entries -/

/-- Once the work is done, the change is as good as its entries are kept. -/
theorem run_of_prepares (prepared : Prepares state change entries files) :
    change.run state = (saveEntries change.index entries).run ⟨state.store, files⟩ := by
  cases prepared with
  | put valid known allowed placed =>
    rw [run, put_of_allowed valid known allowed, run_bind, placed]
    simp only [run_bind, index]
    rcases StoreAction.run (saveEntries _ _) _ with ⟨_ | _, _⟩ <;> rfl
  | remove known found removed =>
    rw [run, remove_of_present known found, run_bind, removed]
    simp only [run_bind, index]
    rcases StoreAction.run (saveEntries _ _) _ with ⟨_ | _, _⟩ <;> rfl
  | rebuild known searched =>
    rw [run, Store.rebuild, run_bind, run_entries, known]
    simp only [run_bind, run_state, run_lift, searched, index]
    rcases StoreAction.run (saveEntries _ _) _ with ⟨_ | _, _⟩ <;> rfl

/-- A put whose document is not in its file has made the folder at most. -/
theorem put_of_unprepared {index id : String} {document : Json} {overwrite : Bool}
    (unprepared : ∀ entries files,
      ¬ Prepares state (.put index id document overwrite) entries files) :
    (run state (.put index id document overwrite)).2 = state ∨
      (∃ entries, state.store.entries index = .ok entries) ∧
        (run state (.put index id document overwrite)).2 =
          ⟨state.store, (state.files.makeFolders (folder state.store.root index)).1⟩ := by
  rw [run]
  by_cases refused : isValidId id = false
  · exact .inl (by rw [put_of_invalid refused])
  have valid : isValidId id = true := by simpa using refused
  cases known : state.store.entries index with
  | error fault => exact .inl (by rw [put_of_unknown valid known])
  | ok entries =>
    by_cases kept : (entries.lookup id).isSome = true ∧ overwrite = false
    · obtain ⟨present, rfl⟩ := kept
      exact .inl (by rw [put_of_present valid known present])
    have allowed (present : (entries.lookup id).isSome = true) : overwrite = true :=
      Bool.not_eq_false _ ▸ fun asked => kept ⟨present, asked⟩
    obtain ⟨result, files, ran, made⟩ :=
      placeFile_run_files (some (folder state.store.root index))
        (documentPath state.store.root index id) (document.render true) state
    cases result with
    | ok => exact absurd (.put valid known allowed ran) (unprepared _ _)
    | error fault =>
      have same := made fault rfl
      refine .inr ⟨⟨entries, rfl⟩, ?_⟩
      rw [put_of_allowed valid known allowed, run_bind, ran, same]
      rfl

theorem remove_of_unprepared {index id : String}
    (unprepared : ∀ entries files, ¬ Prepares state (.remove index id) entries files) :
    (run state (.remove index id)).2 = state := by
  rw [run]
  cases known : state.store.entries index with
  | error fault => rw [remove_of_unknown known]
  | ok entries =>
    cases found : entries.lookup id with
    | none => rw [remove_of_absent known found]
    | some path =>
      obtain ⟨result, files, ran, kept⟩ := removeFile_run_files path state
      cases result with
      | ok => exact absurd (.remove known found ran) (unprepared _ _)
      | error fault =>
        obtain rfl := kept fault rfl
        rw [remove_of_present known found, run_bind, ran]

theorem rebuild_of_unprepared {index : String}
    (unprepared : ∀ entries files, ¬ Prepares state (.rebuild index) entries files) :
    (run state (.rebuild index)).2 = state := by
  rw [run, Store.rebuild, run_bind, run_entries]
  cases known : state.store.entries index with
  | error fault => rfl
  | ok entries =>
    simp only [run_bind, run_state, run_lift]
    cases searched : foundEntries state.files (folder state.store.root index) with
    | error fault => rfl
    | ok found => exact absurd (.rebuild known searched) (unprepared _ _)

/-- A change whose work is not done leaves the entries alone; only a put can have made folders. -/
theorem run_of_unprepared (unprepared : ∀ entries files, ¬ Prepares state change entries files) :
    (change.run state).2 = state ∨
      (∃ entries, state.store.entries change.index = .ok entries) ∧
        (change.run state).2 =
          ⟨state.store, (state.files.makeFolders (folder state.store.root change.index)).1⟩ := by
  cases change with
  | put => exact put_of_unprepared unprepared
  | remove => exact .inl (remove_of_unprepared unprepared)
  | rebuild => exact .inl (rebuild_of_unprepared unprepared)

/-! ## Opening the store again -/

theorem load_eq_of_readIndex {before after : FileTree} {root : String} {names : List String}
    (same : ∀ name ∈ names,
      readIndex after (indexFile root name) = readIndex before (indexFile root name)) :
    load after root names = load before root names := by
  have all : (names.mapM fun name => do
        return (name, ← readIndex after (indexFile root name)) : Except StoreError _) =
      names.mapM fun name => do return (name, ← readIndex before (indexFile root name)) := by
    induction names with
    | nil => rw [List.mapM_nil, List.mapM_nil]
    | cons name rest ih =>
      rw [List.mapM_cons, List.mapM_cons, same name List.mem_cons_self,
        ih fun other member => same other (List.mem_cons_of_mem _ member)]
  rw [load, load, all]

/-- A folder that is made for the documents of an index is not read when a store is opened. -/
theorem load_makeFolders {root : String} {place : Location} {names : List String} {index : String}
    (layout : Layout files root place) (named : ∀ name ∈ names, IndexName name)
    (member : index ∈ names) :
    load (files.makeFolders (folder root index)).1 root names = load files root names := by
  rcases layout.makeFolders_files (named index member).toPlainName with same | made
  · rw [folder, same]
  rw [folder, made]
  refine load_eq_of_readIndex fun name listed => ?_
  have apart := (named index member).apart
  have read := layout.readText_inner (layout.withFolder index) followed_indexes
    (named name listed).followed_file
    (by rw [FileTree.entry?_withFolder layout, if_neg (by simpa using Ne.symm apart)])
    (by rw [FileTree.entry?_withFolder layout, if_neg (by simp)])
  rw [readIndex, readIndex, indexFile_eq, read]

/-! ## Changes that fail -/

/-- The files that the failure of a change leaves are opened as before. -/
theorem load_of_unprepared (unprepared : ∀ entries files, ¬ Prepares state change entries files)
    {place : Location} (layout : Layout state.files state.store.root place)
    (named : ∀ name ∈ state.store.indexes.map (·.1), IndexName name) :
    load (change.run state).2.files state.store.root (state.store.indexes.map (·.1)) =
      load state.files state.store.root (state.store.indexes.map (·.1)) := by
  rcases run_of_unprepared unprepared with same | ⟨⟨entries, known⟩, made⟩
  · rw [same]
  · have member : change.index ∈ state.store.indexes.map (·.1) :=
      List.mem_map.mpr ⟨_, Keyed.mem_of_lookup (entries_eq_ok_iff.mp known), rfl⟩
    simp only [made, load_makeFolders layout named member]

theorem Prepares.known (prepared : Prepares state change entries files) :
    ∃ old, state.store.entries change.index = .ok old := by
  cases prepared with
  | put _ known => exact ⟨_, known⟩
  | remove known => exact ⟨_, known⟩
  | rebuild known => exact ⟨_, known⟩

/-- What is left of a change that fails. If its work fails then the entries in memory stay, and in
folders of files the store is opened again as before. Only if the index file cannot be written are
the new entries of the index in memory, and then they are whatever the old ones were. -/
theorem ids_of_fault {fault : StoreError} (failed : (change.run state).1 = .error fault) :
    let after := (change.run state).2
    let names := state.store.indexes.map (·.1)
    ((∀ entries files, ¬ Prepares state change entries files) ∧ after.store = state.store ∧
        ∀ place, Layout state.files state.store.root place → (∀ name ∈ names, IndexName name) →
          load after.files state.store.root names = load state.files state.store.root names) ∨
      ∃ entries files, Prepares state change entries files ∧
        (saveEntries change.index entries).run ⟨state.store, files⟩ = (.error fault, after) ∧
        after.store.ids change.index = .ok (entries.map (·.1)) ∧
        ∀ other, other ≠ change.index → after.store.ids other = state.store.ids other := by
  intro after names
  by_cases prepared : ∃ entries files, Prepares state change entries files
  · obtain ⟨entries, files, prepared⟩ := prepared
    obtain ⟨saved, kept, ran⟩ := saveEntries_run_files change.index entries ⟨state.store, files⟩
    have whole := run_of_prepares prepared
    have left : after = ⟨state.store.withEntries change.index entries, kept⟩ :=
      congrArg Prod.snd (whole.trans ran)
    obtain ⟨old, known⟩ := prepared.known
    refine .inr ⟨entries, files, prepared, whole ▸ Prod.ext failed rfl, ?_, fun other apart => ?_⟩
    · rw [left, ids, entries_withEntries known]
      rfl
    · rw [left, ids, ids, entries_withEntries_of_ne _ apart]
  · have unprepared : ∀ entries files, ¬ Prepares state change entries files :=
      fun entries files found => prepared ⟨entries, files, found⟩
    refine .inl ⟨unprepared, ?_, fun place layout named =>
      load_of_unprepared unprepared layout named⟩
    show (change.run state).2.store = state.store
    rcases run_of_unprepared unprepared with same | ⟨-, made⟩
    · rw [same]
    · rw [made]

/-! ## An index file that cannot be written -/

/-- A working folder with a file in the place of the folder of index files. -/
def blockedFiles : FileTree :=
  (FileTree.empty []).set ["indexes"] (.file (.text ""))

/-- A store that was opened before that file was there. -/
def blocked : StoreState :=
  ⟨⟨".", [("a", [])]⟩, blockedFiles⟩

/-- The files after a document was written there. -/
def blockedFilesX : FileTree :=
  (blockedFiles.set ["a"] .folder).set ["a", fileName "x"]
    (.file (.text ((Json.object []).render true)))

/-- A document is written there, as its own folder can be made. -/
theorem prepares_blocked :
    Prepares blocked (.put "a" "x" (.object []) false) [("x", documentPath "." "a" "x")]
      blockedFilesX := by
  have lies : FileTree.FolderAt blockedFiles "." [] := ⟨.stay .here, rfl⟩
  have inside : FileTree.FolderAt (blockedFiles.set ["a"] .folder) "." [] := ⟨.stay .here, rfl⟩
  have usable : UsablePath (Path.join "." "a") := ⟨by decide, by decide, by decide⟩
  have made := lies.makeFolders_absent named_a.followed usable rfl
  have absent : FileTree.entry? (blockedFiles.set ["a"] .folder) ["a", fileName "x"] = none := rfl
  have located := inside.locate_inner named_a.followed followed_x usable_x rfl
    (by simp [absent]) true
  have written := FileTree.write_of_located located (by simp [absent])
    (.text ((Json.object []).render true))
  have unlisted : blocked.store.entries "a" = .ok [] := rfl
  refine .put (by decide) unlisted (by simp) ?_
  simp only [placeFile, run_bind, makeFolders_run, blocked, folder, made, writeText_run,
    FileTree.writeText, documentPath_eq, List.nil_append, written,
    blockedFilesX]

/-- Entries are not written, as there is no folder to write them to. -/
theorem saveEntries_blocked (entries : DocumentIndex) :
    (saveEntries "a" entries).run ⟨blocked.store, blockedFilesX⟩ =
      (.error (.fault (Path.join "." "indexes")),
        ⟨blocked.store.withEntries "a" entries, blockedFilesX⟩) := by
  have lies : FileTree.FolderAt blockedFilesX "." [] := ⟨.stay .here, rfl⟩
  have usable : UsablePath (Path.join "." "indexes") := ⟨by decide, by decide, by decide⟩
  have held : blockedFilesX.entry? ["indexes"] = some (.file (.text "")) := rfl
  have unmade := lies.makeFolders_present followed_indexes usable held (by simp)
  rw [saveEntries_run]
  simp only [blocked, parent?_indexFile "." named_a.noSlash, placeFile, run_bind, makeFolders_run,
    unmade]
  rfl

/-- The document has its entry in memory, and the change fails. -/
theorem run_blocked :
    run blocked (.put "a" "x" (.object []) false) =
      (.error (.fault (Path.join "." "indexes")),
        ⟨blocked.store.withEntries "a" [("x", documentPath "." "a" "x")], blockedFilesX⟩) := by
  rw [run_of_prepares prepares_blocked]
  exact saveEntries_blocked _

/-- A failed change has changed the ids: the document is in its file and its entry in memory, but
the index file could not be written. -/
theorem ids_differ_after_fault :
    Reached "." ["a"] (.empty []) ⟨blocked.store, .empty []⟩ ∧
      ∃ after, run blocked (.put "a" "x" (.object []) false) =
          (.error (.fault (Path.join "." "indexes")), after) ∧
        blocked.store.ids "a" = .ok [] ∧ after.store.ids "a" = .ok ["x"] := by
  have loaded : load (.empty []) "." ["a"] = .ok blocked.store :=
    load_working (by simpa using And.intro named_a.noSlash listable_a)
  have opened : Reached "." ["a"] (.empty []) ⟨blocked.store, .empty []⟩ :=
    .opened (fun place target => by simp [FileTree.empty, FileTree.entry?]) loaded
      (by simp [blocked])
  exact ⟨opened, _, run_blocked, rfl, rfl⟩

/-- There, the entries in memory are those that were to be kept. -/
theorem ids_of_fault_blocked :
    (run blocked (.put "a" "x" (.object []) false)).1 =
        .error (.fault (Path.join "." "indexes")) ∧
      ∃ entries files, Prepares blocked (.put "a" "x" (.object []) false) entries files ∧
        (run blocked (.put "a" "x" (.object []) false)).2.store.ids "a" =
          .ok (entries.map (·.1)) := by
  have failed := congrArg Prod.fst run_blocked
  refine ⟨failed, ?_⟩
  rcases ids_of_fault failed with ⟨unprepared, -, -⟩ | ⟨entries, files, prepared, -, listed, -⟩
  · exact absurd prepares_blocked (unprepared _ _)
  · exact ⟨entries, files, prepared, listed⟩

end StoreChange

end AnswerGraph
