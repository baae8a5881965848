import AnswerGraph.Proofs.FileTree
import AnswerGraph.Store.Update

/-!
What the operations of a store do, step by step. Every file is written in one way: into a folder
that is made if need be. The files of a store change in no other way, but for those deleted.
-/

namespace AnswerGraph

open FileTree (Extends Keeps LinkFree)

/-! ## Reading a document -/

theorem readDocument_of_located {files : FileTree} {path : String} {place : Location}
    (located : files.locate true path = .ok place) :
    readDocument files path =
      match files.entry? place with
      | some (.file (.text text)) =>
        match Json.parse? text with
        | some document => .ok document
        | none => .error (.malformed path)
      | _ => .error (.fault path) := by
  simp only [readDocument, FileTree.readText, FileTree.read, located, Bind.bind, Except.bind]
  rcases files.entry? place with _ | ⟨⟨_ | _⟩ | _ | _⟩ <;> rfl

theorem located_of_readDocument {files : FileTree} {path : String} {document : Json}
    (read : readDocument files path = .ok document) :
    ∃ place, files.locate true path = .ok place := by
  cases located : files.locate true path with
  | ok place => exact ⟨place, rfl⟩
  | error fault =>
    rw [readDocument, FileTree.readText_of_unlocated located] at read
    cases read

/-- A file that was not written is read as before. -/
theorem readDocument_of_extends {written : Location → Prop} {before after : FileTree}
    (grown : Extends written before after) {path : String} {place : Location}
    (located : before.locate true path = .ok place) (untouched : ¬ written place) :
    readDocument after path = readDocument before path := by
  rw [readDocument_of_located located, readDocument_of_located (grown.keeps.locate located)]
  rcases grown.entry place with same | ⟨absent, made⟩ | ⟨wrote, _⟩
  · rw [same]
  · rw [absent, made]
  · exact absurd wrote untouched

namespace StoreAction

/-! ## Running actions -/

theorem run_bind (action : StoreAction α) (next : α → StoreAction β) (state : StoreState) :
    (action >>= next).run state =
      match action.run state with
      | (.ok value, after) => (next value).run after
      | (.error fault, after) => (.error fault, after) := by
  change (ExceptT.bind action next) state = _
  simp only [ExceptT.bind, ExceptT.mk, ExceptT.bindCont, Bind.bind, StateT.bind, run]
  rcases action state with ⟨_ | _, _⟩ <;> rfl

@[simp] theorem run_pure (value : α) (state : StoreState) :
    (pure value : StoreAction α).run state = (.ok value, state) := rfl

@[simp] theorem run_throw (fault : StoreError) (state : StoreState) :
    (throw fault : StoreAction α).run state = (.error fault, state) := rfl

@[simp] theorem run_lift (result : Except StoreError α) (state : StoreState) :
    (liftM result : StoreAction α).run state = (result, state) := by
  cases result <;> rfl

@[simp] theorem run_state (state : StoreState) : StoreAction.state.run state = (.ok state, state) :=
  rfl

@[simp] theorem run_entries (index : String) (state : StoreState) :
    (entries index).run state = (state.store.entries index, state) := rfl

@[simp] theorem run_setEntries (index : String) (entries : DocumentIndex) (state : StoreState) :
    (setEntries index entries).run state =
      (.ok (), { state with store := state.store.withEntries index entries }) := rfl

/-! ## Writing a file into its folder -/

/-- Writes a file, into a folder that is made first. -/
def placeFile (folder : Option String) (path text : String) : StoreAction Unit := do
  if let some folder := folder then makeFolders folder
  writeText path text

/-- The text of an index file. -/
def entriesText (entries : DocumentIndex) : String :=
  (Json.object (entries.map fun (id, path) => (id, .string path))).render true

theorem saveEntries_run (index : String) (entries : DocumentIndex) (state : StoreState) :
    (saveEntries index entries).run state =
      (placeFile (Path.parent? (Store.indexFile state.store.root index))
        (Store.indexFile state.store.root index) (entriesText entries)).run
        { state with store := state.store.withEntries index entries } := by
  rw [saveEntries, run_bind, run_setEntries]
  rfl

theorem makeFolders_run (path : String) (state : StoreState) :
    (makeFolders path).run state =
      (match (state.files.makeFolders path).2 with
        | .ok _ => .ok ()
        | .error _ => .error (.fault path),
        { state with files := (state.files.makeFolders path).1 }) := by
  have shown : (makeFolders path).run state =
      ((state.files.makeFolders path).2.mapError fun _ => .fault path,
        { state with files := (state.files.makeFolders path).1 }) := rfl
  rw [shown]
  cases (state.files.makeFolders path).2 <;> rfl

theorem writeText_run (path text : String) (state : StoreState) :
    (writeText path text).run state =
      match state.files.writeText path text with
      | .ok files => (.ok (), { state with files })
      | .error _ => (.error (.fault path), state) := rfl

/-- The second tree is what the first one has become when a text was to be written to a path. Only
that file has changed, and it holds the text unless there was a fault. -/
structure Writes (path text : String) (before after : FileTree) (result : Except StoreError Unit) :
    Prop where
  grown : Extends (fun place => after.locate true path = .ok place) before after
  placed : result = .ok () → ∃ place, after.locate true path = .ok place ∧
    after.entry? place = some (.file (.text text))

theorem writeText_writes (path text : String) (state : StoreState)
    (grounded : state.files.Grounded) :
    ∃ result files, (writeText path text).run state = (result, { state with files }) ∧
      Writes path text state.files files result := by
  rw [writeText_run]
  cases wrote : state.files.writeText path text with
  | error fault => exact ⟨_, state.files, rfl, .refl _ _, by simp⟩
  | ok files =>
    obtain ⟨place, located, noFolder, rfl⟩ := FileTree.located_of_write wrote
    have writable := (grounded.locate located).writable noFolder
    have grown := FileTree.extends_set_file writable (.text text)
    have located' := grown.keeps.locate located
    refine ⟨_, _, rfl, grown.mono ?_, fun _ => ⟨place, located', ?_⟩⟩
    · rintro _ rfl
      exact located'
    · rw [FileTree.entry?_set _ (FileTree.inner_of_not_folder _ noFolder), if_pos rfl]

theorem placeFile_writes (folder : Option String) (path text : String) (state : StoreState)
    (grounded : state.files.Grounded) :
    ∃ result files, (placeFile folder path text).run state = (result, { state with files }) ∧
      Writes path text state.files files result := by
  cases folder with
  | none => exact writeText_writes path text state grounded
  | some folder =>
    have grown (written) := FileTree.makeFolders_extends written state.files folder
    simp only [placeFile, run_bind, makeFolders_run]
    cases made : (state.files.makeFolders folder).2 with
    | error fault => exact ⟨_, _, rfl, grown _, by simp⟩
    | ok =>
      obtain ⟨result, files, ran, written⟩ :=
        writeText_writes path text { state with files := (state.files.makeFolders folder).1 }
          ((grown fun _ => False).keeps.grounded grounded)
      exact ⟨result, files, ran, (grown _).trans written.grown, written.placed⟩

/-- Entries are in memory even if the index file cannot be written. -/
theorem saveEntries_writes (index : String) (entries : DocumentIndex) (state : StoreState)
    (grounded : state.files.Grounded) :
    ∃ saved files, (saveEntries index entries).run state =
        (saved, ⟨state.store.withEntries index entries, files⟩) ∧
      Writes (Store.indexFile state.store.root index) (entriesText entries) state.files files
        saved := by
  rw [saveEntries_run]
  exact placeFile_writes _ _ _ ⟨state.store.withEntries index entries, state.files⟩ grounded

end StoreAction

namespace Store

open StoreAction

/-! ## Entries in memory -/

theorem lookup_map_entries (indexes : List (String × DocumentIndex)) (index name : String)
    (entries : DocumentIndex) :
    (indexes.map fun (name, old) => (name, if name = index then entries else old)).lookup name =
      (indexes.lookup name).map fun old => if name = index then entries else old := by
  induction indexes with
  | nil => rfl
  | cons first rest ih =>
    obtain ⟨key, old⟩ := first
    by_cases same : name = key
    · subst key
      simp
    · have other : (name == key) = false := beq_eq_false_iff_ne.mpr same
      simpa only [List.map_cons, List.lookup_cons, other] using ih

theorem entries_eq_ok_iff {store : Store} {index : String} {entries : DocumentIndex} :
    store.entries index = .ok entries ↔ store.indexes.lookup index = some entries := by
  rw [Store.entries]
  cases store.indexes.lookup index <;> simp

theorem ids_eq_ok_iff {store : Store} {index : String} {ids : List String} :
    store.ids index = .ok ids ↔
      ∃ entries, store.entries index = .ok entries ∧ entries.map (·.1) = ids := by
  rw [Store.ids]
  cases store.entries index <;> simp [Bind.bind, Except.bind, Pure.pure, Except.pure]

theorem entries_withEntries {store : Store} {index : String} {old : DocumentIndex}
    (known : store.entries index = .ok old) (entries : DocumentIndex) :
    (store.withEntries index entries).entries index = .ok entries := by
  rw [entries_eq_ok_iff] at known ⊢
  simp [withEntries, lookup_map_entries, known]

theorem entries_withEntries_of_ne (store : Store) {index other : String}
    (different : other ≠ index) (entries : DocumentIndex) :
    (store.withEntries index entries).entries other = store.entries other := by
  rw [Store.entries, withEntries, lookup_map_entries, Store.entries]
  cases store.indexes.lookup other <;> simp [different]

theorem get_eq (store : Store) (files : FileTree) (index id : String) :
    store.get files index id =
      match (store.entries index).map (·.lookup id) with
      | .error fault => .error fault
      | .ok none => .ok none
      | .ok (some path) => (readDocument files path).map some := by
  rw [get]
  cases store.entries index with
  | error fault => rfl
  | ok entries =>
    simp only [Except.map, Bind.bind, Except.bind]
    cases entries.lookup id with
    | none => rfl
    | some path => cases readDocument files path <;> rfl

/-! ## Searching a folder -/

/-- What a search reads from some files: the ids of the documents, each with the path of its file. -/
def foundPairs (files : FileTree) (paths : List String) : List (String × String) :=
  (paths.filter fun path => Path.extension? path == some "json").filterMap fun path =>
    (idOfFile? files path).map (·, path)

theorem foundEntries_of_walk {files : FileTree} {folder : String} {paths : List String}
    (isFolder : files.isFolder folder = true) (walked : files.walk folder = .ok paths) :
    foundEntries files folder = .ok (Keyed.ofList (foundPairs files paths)) := by
  rw [foundEntries, isFolder, walked]
  rfl

theorem mem_foundPairs {files : FileTree} {paths : List String} {entry : String × String} :
    entry ∈ foundPairs files paths ↔ entry.2 ∈ paths ∧ Path.extension? entry.2 = some "json" ∧
      idOfFile? files entry.2 = some entry.1 := by
  rw [foundPairs, List.mem_filterMap]
  constructor
  · rintro ⟨path, kept, paired⟩
    obtain ⟨listed, extension⟩ := List.mem_filter.mp kept
    obtain ⟨id, named, rfl⟩ := Option.map_eq_some_iff.mp paired
    exact ⟨listed, beq_iff_eq.mp extension, named⟩
  · rintro ⟨listed, extension, named⟩
    refine ⟨entry.2, List.mem_filter.mpr ⟨listed, beq_iff_eq.mpr extension⟩, ?_⟩
    rw [named]
    rfl

/-- Without a folder nothing is found, and else what is read from the files of its walk. -/
theorem foundEntries_cases {files : FileTree} {folder : String} {found : DocumentIndex}
    (searched : foundEntries files folder = .ok found) :
    files.isFolder folder = false ∧ found = [] ∨
      ∃ paths, files.isFolder folder = true ∧ files.walk folder = .ok paths ∧
        found = Keyed.ofList (foundPairs files paths) := by
  rw [foundEntries] at searched
  split at searched
  · next isFolder =>
    split at searched
    · cases searched
    · next paths walked => exact .inr ⟨paths, isFolder, walked, (Except.ok.inj searched).symm⟩
  · next noFolder =>
    exact .inl ⟨Bool.of_not_eq_true noFolder, (Except.ok.inj searched).symm⟩

/-! ## What an operation does -/

/-- The file that a document is put into. -/
def documentPath (root index id : String) : String :=
  Path.join (folder root index) (id ++ ".json")

/-- What putting a document may come to. -/
inductive PutStep (index id : String) (document : Json) (overwrite : Bool) (state : StoreState) :
    Except StoreError Bool → StoreState → Prop
  | invalid (refused : isValidId id = false) :
      PutStep index id document overwrite state (.error (.invalidId id)) state
  | unknown {fault : StoreError} (valid : isValidId id = true)
      (refused : state.store.entries index = .error fault) :
      PutStep index id document overwrite state (.error fault) state
  | kept {entries : DocumentIndex} (valid : isValidId id = true)
      (known : state.store.entries index = .ok entries)
      (present : (entries.lookup id).isSome = true) (asked : overwrite = false) :
      PutStep index id document overwrite state (.ok false) state
  | unwritten {entries : DocumentIndex} {fault : StoreError} {files : FileTree}
      (valid : isValidId id = true) (known : state.store.entries index = .ok entries)
      (allowed : (entries.lookup id).isSome = true → overwrite = true)
      (stuck : Writes (documentPath state.store.root index id) (document.render true) state.files
        files (.error fault)) :
      PutStep index id document overwrite state (.error fault) { state with files }
  | stored {entries : DocumentIndex} {middle files : FileTree} {saved : Except StoreError Unit}
      (valid : isValidId id = true) (known : state.store.entries index = .ok entries)
      (allowed : (entries.lookup id).isSome = true → overwrite = true)
      (wrote : Writes (documentPath state.store.root index id) (document.render true) state.files
        middle (.ok ()))
      (recorded : Writes (indexFile state.store.root index)
        (entriesText (Keyed.insert id (documentPath state.store.root index id) entries))
        middle files saved) :
      PutStep index id document overwrite state (saved.map fun _ => true)
        ⟨state.store.withEntries index
          (Keyed.insert id (documentPath state.store.root index id) entries), files⟩

section Put

variable {index id : String} {document : Json} {overwrite : Bool} {state : StoreState}

theorem put_of_invalid (refused : isValidId id = false) :
    (put index id document overwrite).run state = (.error (.invalidId id), state) := by
  simp only [put, refused, Bool.not_false, if_true]
  rw [run_bind, run_throw]

theorem put_of_unknown {fault : StoreError} (valid : isValidId id = true)
    (refused : state.store.entries index = .error fault) :
    (put index id document overwrite).run state = (.error fault, state) := by
  simp only [put, valid, Bool.not_true, Bool.false_eq_true, if_false]
  rw [run_bind, run_entries, refused]

theorem put_of_present {entries : DocumentIndex} (valid : isValidId id = true)
    (known : state.store.entries index = .ok entries)
    (present : (entries.lookup id).isSome = true) :
    (put index id document false).run state = (.ok false, state) := by
  simp only [put, valid, Bool.not_true, Bool.false_eq_true, if_false]
  rw [run_bind, run_entries, known]
  simp only [present, Bool.not_false, Bool.and_true, if_true]
  rw [run_pure]

/-- A document that may be put is written, then the index file. -/
theorem put_of_allowed {entries : DocumentIndex} (valid : isValidId id = true)
    (known : state.store.entries index = .ok entries)
    (allowed : (entries.lookup id).isSome = true → overwrite = true) :
    (put index id document overwrite).run state =
      (do
        placeFile (some (folder state.store.root index))
          (documentPath state.store.root index id) (document.render true)
        saveEntries index (Keyed.insert id (documentPath state.store.root index id) entries)
        return true : StoreAction Bool).run state := by
  have go : ((entries.lookup id).isSome && !overwrite) = false := by
    cases overwrite with
    | true => simp
    | false => simpa only [Bool.not_false, Bool.and_true, Bool.false_eq_true, imp_false,
        Bool.not_eq_true] using allowed
  simp only [put, valid, Bool.not_true, Bool.false_eq_true, if_false]
  rw [run_bind, run_entries, known]
  simp only [go, Bool.false_eq_true, if_false]
  rw [run_bind, run_state]
  simp only [placeFile, run_bind, documentPath]
  rcases (makeFolders (folder state.store.root index)).run state with ⟨_ | _, _⟩ <;> rfl

end Put

theorem put_step_of_grounded (index id : String) (document : Json) (overwrite : Bool)
    (state : StoreState) (grounded : state.files.Grounded) :
    PutStep index id document overwrite state ((put index id document overwrite).run state).1
      ((put index id document overwrite).run state).2 := by
  by_cases refused : isValidId id = false
  · rw [put_of_invalid refused]
    exact .invalid refused
  have valid : isValidId id = true := by simpa using refused
  cases known : state.store.entries index with
  | error fault =>
    rw [put_of_unknown valid known]
    exact .unknown valid known
  | ok entries =>
    by_cases halted : (entries.lookup id).isSome = true ∧ overwrite = false
    · obtain ⟨present, rfl⟩ := halted
      rw [put_of_present valid known present]
      exact .kept valid known present rfl
    have allowed (present : (entries.lookup id).isSome = true) : overwrite = true :=
      Bool.not_eq_false _ ▸ fun asked => halted ⟨present, asked⟩
    rw [put_of_allowed valid known allowed, run_bind]
    obtain ⟨result, middle, ran, wrote⟩ :=
      placeFile_writes (some (folder state.store.root index))
        (documentPath state.store.root index id) (document.render true) state grounded
    rw [ran]
    cases result with
    | error fault => exact .unwritten valid known allowed wrote
    | ok =>
      obtain ⟨saved, files, ran, recorded⟩ :=
        saveEntries_writes index
          (Keyed.insert id (documentPath state.store.root index id) entries)
          ⟨state.store, middle⟩ (wrote.grown.keeps.grounded grounded)
      have step := PutStep.stored valid known allowed wrote recorded
      simp only [run_bind, ran]
      cases saved with
      | error fault => exact step
      | ok => exact step

theorem put_step (index id : String) (document : Json) (overwrite : Bool) (state : StoreState)
    (free : state.files.LinkFree) :
    PutStep index id document overwrite state ((put index id document overwrite).run state).1
      ((put index id document overwrite).run state).2 :=
  put_step_of_grounded index id document overwrite state free.grounded

/-- What deleting a document may come to. -/
inductive RemoveStep (index id : String) (state : StoreState) :
    Except StoreError Bool → StoreState → Prop
  | unknown {fault : StoreError} (refused : state.store.entries index = .error fault) :
      RemoveStep index id state (.error fault) state
  | absent {entries : DocumentIndex} (known : state.store.entries index = .ok entries)
      (missing : entries.lookup id = none) : RemoveStep index id state (.ok false) state
  | stuck {entries : DocumentIndex} {path : String} {fault : FileError}
      (known : state.store.entries index = .ok entries) (found : entries.lookup id = some path)
      (failed : state.files.removeFile path = .error fault) :
      RemoveStep index id state (.error (.fault path)) state
  | removed {entries : DocumentIndex} {path : String} {middle files : FileTree}
      {saved : Except StoreError Unit} (known : state.store.entries index = .ok entries)
      (found : entries.lookup id = some path)
      (gone : state.files.removeFile path = .ok middle ∨
        state.files.removeFile path = .error .notFound ∧ middle = state.files)
      (recorded : Writes (indexFile state.store.root index) (entriesText (Keyed.erase id entries))
        middle files saved) :
      RemoveStep index id state (saved.map fun _ => true)
        ⟨state.store.withEntries index (Keyed.erase id entries), files⟩

theorem removeFile_run (path : String) (state : StoreState) :
    (StoreAction.removeFile path).run state =
      match state.files.removeFile path with
      | .ok files => (.ok (), { state with files })
      | .error .notFound => (.ok (), state)
      | .error _ => (.error (.fault path), state) := rfl

section Remove

variable {index id : String} {state : StoreState}

theorem remove_of_unknown {fault : StoreError}
    (refused : state.store.entries index = .error fault) :
    (remove index id).run state = (.error fault, state) := by
  rw [remove, run_bind, run_entries, refused]

theorem remove_of_absent {entries : DocumentIndex} (known : state.store.entries index = .ok entries)
    (missing : entries.lookup id = none) : (remove index id).run state = (.ok false, state) := by
  rw [remove, run_bind, run_entries, known]
  simp only [missing]
  rw [run_pure]

/-- A document that is there is deleted, then the index file is written. -/
theorem remove_of_present {entries : DocumentIndex} {path : String}
    (known : state.store.entries index = .ok entries) (found : entries.lookup id = some path) :
    (remove index id).run state =
      (do
        StoreAction.removeFile path
        saveEntries index (Keyed.erase id entries)
        return true : StoreAction Bool).run state := by
  rw [remove, run_bind, run_entries, known]
  simp only [found]

end Remove

theorem remove_step (index id : String) (state : StoreState) (free : state.files.LinkFree) :
    RemoveStep index id state ((remove index id).run state).1 ((remove index id).run state).2 := by
  cases known : state.store.entries index with
  | error fault =>
    rw [remove_of_unknown known]
    exact .unknown known
  | ok entries =>
    cases found : entries.lookup id with
    | none =>
      rw [remove_of_absent known found]
      exact .absent known found
    | some path =>
      rw [remove_of_present known found, run_bind, removeFile_run]
      have save {middle : FileTree} (gone : state.files.removeFile path = .ok middle ∨
          state.files.removeFile path = .error .notFound ∧ middle = state.files)
          (free : middle.LinkFree) :
          RemoveStep index id state
            ((saveEntries index (Keyed.erase id entries) >>= fun _ => pure true).run
              ⟨state.store, middle⟩).1
            ((saveEntries index (Keyed.erase id entries) >>= fun _ => pure true).run
              ⟨state.store, middle⟩).2 := by
        obtain ⟨saved, files, ran, recorded⟩ :=
          saveEntries_writes index (Keyed.erase id entries) ⟨state.store, middle⟩ free.grounded
        have step := RemoveStep.removed known found gone recorded
        rw [run_bind, ran]
        cases saved with
        | error fault => exact step
        | ok => exact step
      cases removed : state.files.removeFile path with
      | ok middle =>
        exact save (.inl removed) ((FileTree.keeps_of_removeFile free removed).linkFree free)
      | error fault =>
        cases fault with
        | notFound => exact save (.inr ⟨removed, rfl⟩) free
        | _ => exact .stuck known found removed

/-- What rebuilding an index may come to. -/
inductive RebuildStep (index : String) (state : StoreState) :
    Except StoreError Nat → StoreState → Prop
  | unknown {fault : StoreError} (refused : state.store.entries index = .error fault) :
      RebuildStep index state (.error fault) state
  | unwalkable {entries : DocumentIndex} {fault : StoreError}
      (known : state.store.entries index = .ok entries)
      (failed : foundEntries state.files (folder state.store.root index) = .error fault) :
      RebuildStep index state (.error fault) state
  | rebuilt {entries found : DocumentIndex} {files : FileTree} {saved : Except StoreError Unit}
      (known : state.store.entries index = .ok entries)
      (searched : foundEntries state.files (folder state.store.root index) = .ok found)
      (recorded : Writes (indexFile state.store.root index) (entriesText found) state.files files
        saved) :
      RebuildStep index state (saved.map fun _ => found.length)
        ⟨state.store.withEntries index found, files⟩

theorem rebuild_step (index : String) (state : StoreState) (free : state.files.LinkFree) :
    RebuildStep index state ((rebuild index).run state).1 ((rebuild index).run state).2 := by
  rw [rebuild, run_bind, run_entries]
  cases known : state.store.entries index with
  | error fault => exact .unknown known
  | ok entries =>
    simp only [run_bind, run_state, run_lift]
    cases searched : foundEntries state.files (folder state.store.root index) with
    | error fault => exact .unwalkable known searched
    | ok found =>
      obtain ⟨saved, files, ran, recorded⟩ :=
        saveEntries_writes index found state free.grounded
      have step := RebuildStep.rebuilt known searched recorded
      simp only [ran]
      cases saved with
      | error fault => exact step
      | ok => exact step

end Store

end AnswerGraph
