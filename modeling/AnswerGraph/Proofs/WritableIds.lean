import AnswerGraph.Proofs.DocumentRemoval

/-!
Ids that are listed and can be put again. A document is put under an id that can be a file name, but
a rebuild lists a document under the id that it gives itself, and this may be any text. So an id
that is listed is refused only if a rebuild came upon a document that has it.
-/

namespace AnswerGraph

open FileTree (Layout UsablePath Followed innerPath)

namespace StoreAction

section Faults

variable {folder : Option String} {path text : String} {state after : StoreState}
  {fault : StoreError}

theorem fault_of_writeText (failed : (writeText path text).run state = (.error fault, after)) :
    fault = .fault path := by
  rw [writeText_run] at failed
  cases wrote : state.files.writeText path text with
  | ok files =>
    rw [wrote] at failed
    cases failed
  | error cause =>
    rw [wrote] at failed
    cases failed
    rfl

/-- What keeps a file from being placed is a fault at some path. -/
theorem fault_of_placeFile
    (failed : (placeFile folder path text).run state = (.error fault, after)) :
    ∃ stuck, fault = .fault stuck := by
  cases folder with
  | none => exact ⟨path, fault_of_writeText failed⟩
  | some folder =>
    simp only [placeFile, run_bind, makeFolders_run] at failed
    cases made : (state.files.makeFolders folder).2 with
    | ok =>
      rw [made] at failed
      exact ⟨path, fault_of_writeText failed⟩
    | error cause =>
      rw [made] at failed
      cases failed
      exact ⟨folder, rfl⟩

end Faults

end StoreAction

namespace Store

open StoreAction StoreChange

/-- A put under a valid id fails for want of the index, or at some path. -/
theorem fault_of_put {index id : String} {document : Json} {overwrite : Bool} {state : StoreState}
    {fault : StoreError} (valid : isValidId id = true)
    (failed : ((put index id document overwrite).run state).1 = .error fault) :
    fault = .unknownIndex index ∨ ∃ stuck, fault = .fault stuck := by
  cases known : state.store.entries index with
  | error cause =>
    rw [put_of_unknown valid known] at failed
    cases failed
    rw [Store.entries] at known
    split at known
    · cases known
    · cases known
      exact .inl rfl
  | ok entries =>
    by_cases kept : (entries.lookup id).isSome = true ∧ overwrite = false
    · obtain ⟨present, rfl⟩ := kept
      rw [put_of_present valid known present] at failed
      cases failed
    have allowed (present : (entries.lookup id).isSome = true) : overwrite = true :=
      Bool.not_eq_false _ ▸ fun asked => kept ⟨present, asked⟩
    rw [put_of_allowed valid known allowed, run_bind] at failed
    rcases placed : (placeFile (some (folder state.store.root index))
      (documentPath state.store.root index id) (document.render true)).run state with
      ⟨_ | _, middle⟩
    · rw [placed] at failed
      cases failed
      exact .inr (fault_of_placeFile placed)
    · simp only [placed, run_bind] at failed
      rcases saved : (saveEntries index
        (Keyed.insert id (documentPath state.store.root index id) entries)).run middle with
        ⟨_ | _, final⟩
      · rw [saved] at failed
        cases failed
        rw [saveEntries_run] at saved
        exact .inr (fault_of_placeFile saved)
      · rw [saved] at failed
        cases failed

/-- Only an id that cannot be a file name is refused as one. -/
theorem put_invalidId_iff (index id : String) (document : Json) (overwrite : Bool)
    (state : StoreState) :
    ((put index id document overwrite).run state).1 = .error (.invalidId id) ↔
      isValidId id = false := by
  constructor
  · intro refused
    cases valid : isValidId id with
    | false => rfl
    | true => rcases fault_of_put valid refused with other | ⟨stuck, other⟩ <;> cases other
  · intro invalid
    rw [put_of_invalid invalid]

/-! ## Where listed ids come from -/

/-- The state after some changes, one after the other, whether they succeed or fail. -/
def changeAll : List StoreChange → StoreState → StoreState
  | [], state => state
  | change :: rest, state => changeAll rest (change.run state).2

/-- A change lists an id: a put of a valid one, or a rebuild that comes upon a document of that
id. -/
inductive Enters (state : StoreState) (index id : String) : StoreChange → Prop
  | put {document : Json} {overwrite : Bool} (valid : isValidId id = true) :
      Enters state index id (.put index id document overwrite)
  | rebuild (shows : Shows state.files (folder state.store.root index) id) :
      Enters state index id (.rebuild index)

section Runs

variable {puts : String → Json → Prop} {names : List String} {state after : StoreState}
  {root index id : String} {place : Location} {entries : DocumentIndex} {files : FileTree}

/-- A change leaves the entries of its index alone, or replaces them by what its work gives. -/
theorem store_change (change : StoreChange) (state : StoreState) :
    (change.run state).2.store = state.store ∨
      ∃ entries files, Prepares state change entries files ∧
        (change.run state).2.store = state.store.withEntries change.index entries := by
  by_cases possible : ∃ entries files, Prepares state change entries files
  · obtain ⟨entries, files, prepared⟩ := possible
    obtain ⟨saved, final, ran⟩ := saveEntries_run_files change.index entries ⟨state.store, files⟩
    exact .inr ⟨entries, files, prepared, by rw [run_of_prepares prepared, ran]⟩
  · have unprepared : ∀ entries files, ¬ Prepares state change entries files :=
      fun entries files prepared => possible ⟨entries, files, prepared⟩
    rcases run_of_unprepared unprepared with same | ⟨-, made⟩
    · exact .inl (by rw [same])
    · exact .inl (by rw [made])

theorem root_changeAll (changes : List StoreChange) (state : StoreState) :
    (changeAll changes state).store.root = state.store.root := by
  induction changes generalizing state with
  | nil => rfl
  | cons change rest ih =>
    rw [changeAll, ih]
    rcases store_change change state with same | ⟨_, _, -, same⟩
    · rw [same]
    · rw [same]
      rfl

/-- The entries that the work of a change gives are old ones, or the one that it enters. -/
theorem mem_ids_of_prepares {change : StoreChange} {old : DocumentIndex}
    (prepared : Prepares state change entries files)
    (known : state.store.entries change.index = .ok old) (listed : id ∈ entries.map (·.1)) :
    id ∈ old.map (·.1) ∨ Enters state change.index id change := by
  cases prepared with
  | put valid held =>
    cases held.symm.trans known
    obtain ⟨entry, member, rfl⟩ := List.mem_map.mp listed
    rcases Keyed.mem_insert member with rfl | member
    · exact .inr (.put valid)
    · exact .inl (List.mem_map_of_mem member)
  | remove held =>
    cases held.symm.trans known
    obtain ⟨entry, member, rfl⟩ := List.mem_map.mp listed
    exact .inl (List.mem_map_of_mem (Keyed.mem_erase.mp member).1)
  | rebuild held searched =>
    exact .inr (.rebuild ((mem_ids_foundEntries searched).mp listed))

/-- An id that is listed after a change was listed before, or the change enters it. -/
theorem mem_ids_change (change : StoreChange)
    (known : (change.run state).2.store.entries index = .ok entries)
    (listed : id ∈ entries.map (·.1)) :
    (∃ old, state.store.entries index = .ok old ∧ id ∈ old.map (·.1)) ∨
      Enters state index id change := by
  rcases store_change change state with same | ⟨given, files, prepared, same⟩
  · rw [same] at known
    exact .inl ⟨entries, known, listed⟩
  · rw [same] at known
    obtain ⟨old, held⟩ := prepared.known
    by_cases own : index = change.index
    · subst index
      cases (entries_withEntries held given).symm.trans known
      exact (mem_ids_of_prepares prepared held listed).imp_left fun member => ⟨old, held, member⟩
    · rw [entries_withEntries_of_ne _ own] at known
      exact .inl ⟨entries, known, listed⟩

/-- An id that is listed after some changes was listed before, or one of them entered it. -/
theorem mem_ids_changeAll (changes : List StoreChange) (state : StoreState)
    (known : (changeAll changes state).store.entries index = .ok entries)
    (listed : id ∈ entries.map (·.1)) :
    (∃ old, state.store.entries index = .ok old ∧ id ∈ old.map (·.1)) ∨
      ∃ earlier change later, changes = earlier ++ change :: later ∧
        Enters (changeAll earlier state) index id change := by
  induction changes generalizing state with
  | nil => exact .inl ⟨entries, known, listed⟩
  | cons first rest ih =>
    rcases ih _ known with ⟨old, held, member⟩ | ⟨earlier, change, later, split, enters⟩
    · rcases mem_ids_change first held member with before | enters
      · exact .inl before
      · exact .inr ⟨[], first, rest, rfl, enters⟩
    · exact .inr ⟨first :: earlier, change, later, by rw [split, List.cons_append], enters⟩

/-! ## Ids that documents give themselves -/

/-- An id is valid, or a document that may be put gives it to itself. -/
def Accounted (puts : String → Json → Prop) (id : String) : Prop :=
  isValidId id = true ∨ ∃ key document, puts key document ∧ givenId? document = some id

/-- In the folder of an index a search comes upon such ids only. -/
theorem Housed.accounted (housed : Housed puts files root place index entries)
    (layout : Layout files root place) (unshadowed : files.Unshadowed place)
    (plain : PlainName index) (shows : Shows files (folder root index) id) :
    Accounted puts id := by
  obtain ⟨file, present, named⟩ := (housed.shows_iff layout unshadowed plain).mp shows
  obtain ⟨key, document, -, valid, put, given | rfl⟩ :=
    housed.exists_of_idOfFile? layout present named
  · exact .inr ⟨key, document, put, given⟩
  · exact .inl valid

/-- Whatever becomes of a store that starts out empty, it lists such ids only. -/
theorem Changed.accounted {start : FileTree} (run : Changed puts root names start state)
    (empty : EmptyFolder start root place) (named : ∀ name ∈ names, FolderName name)
    (known : state.store.entries index = .ok entries) (listed : id ∈ entries.map (·.1)) :
    Accounted puts id := by
  induction run generalizing entries with
  | opened loaded =>
    obtain ⟨contents, rfl, read⟩ := eq_of_load loaded
    have member := (arranged_of_load loaded).member known
    have noSlash := (named index member).noSlash
    have nothing := empty.readIndex noSlash (usable_of_load loaded member noSlash)
    rw [entries_of_names, if_pos member, ← read index member, nothing] at known
    cases known
    cases listed
  | @change state earlier change permitted ih =>
    rcases mem_ids_change change known listed with ⟨old, held, member⟩ | enters
    · exact ih held member
    · cases enters with
      | put valid => exact .inl valid
      | rebuild shows =>
        have tended := earlier.tended empty named
        have member := (Changed.change earlier _ permitted).arranged.member known
        obtain ⟨_, _, housed, -⟩ := tended.known index member
        rw [tended.rooted] at shows
        exact housed.accounted tended.layout tended.unshadowed (named index member).toPlainName
          shows
  | @reopened state store earlier loaded ih =>
    have tended := earlier.tended empty named
    have listable := earlier.listable named
    have member := (arranged_of_load loaded).member known
    obtain ⟨contents, rfl, read⟩ := eq_of_load loaded
    rw [entries_of_names, if_pos member] at known
    cases known
    by_cases followed : Followed (fileName index)
    · exact ih ((tended.reread named listable member (read index member)).2 followed).1 listed
    · rw [eq_nil_of_readIndex tended.layout (named index member).toPlainName
        (listable index member) followed (read index member)] at listed
      cases listed

/-! ## Putting under a listed id -/

/-- What becomes of a document that is put under an id that the store lists. It is refused for its
id exactly if that is no file name. If nothing was listed at first, whatever the folder held, then a
rebuild of the index has come upon a document of such an id. If the folder was empty and the indexes
have single names, then a document was put that gives this id to itself, even if the store was
opened again since. -/
theorem put_of_listed {ids : List String} (known : after.store.ids index = .ok ids)
    (listed : id ∈ ids) :
    (∀ document, ((put index id document true).run after).1 = .error (.invalidId id) ↔
      isValidId id = false) ∧
    (∀ start changes, (∀ entry ∈ start.store.indexes, entry.2 = []) →
      changeAll changes start = after → isValidId id = false →
      ∃ earlier later, changes = earlier ++ .rebuild index :: later ∧
        Shows (changeAll earlier start).files (folder start.store.root index) id) ∧
    ∀ {puts root names start place}, EmptyFolder start root place →
      (∀ name ∈ names, FolderName name) → Changed puts root names start after →
      isValidId id = false → ∃ key document, puts key document ∧ givenId? document = some id := by
  obtain ⟨entries, held, rfl⟩ := ids_eq_ok_iff.mp known
  refine ⟨fun document => put_invalidId_iff index id document true after, ?_, ?_⟩
  · rintro start changes fresh rfl invalid
    rcases mem_ids_changeAll changes start held listed with
      ⟨old, before, member⟩ | ⟨earlier, change, later, split, enters⟩
    · have empty : old = [] := fresh _ (Keyed.mem_of_lookup (entries_eq_ok_iff.mp before))
      rw [empty] at member
      cases member
    · cases enters with
      | put valid =>
        rw [valid] at invalid
        cases invalid
      | rebuild shows =>
        rw [root_changeAll] at shows
        exact ⟨earlier, later, split, shows⟩
  · intro puts root names start place empty named run invalid
    rcases run.accounted empty named held listed with valid | given
    · rw [valid] at invalid
      cases invalid
    · exact given

end Runs

/-! ## A listed id that is refused -/

/-- A document that gives itself an id that is no file name. -/
def documentYZ : Json :=
  .object [("id", .string "y/z")]

theorem readable_documentYZ : Json.parse? (documentYZ.render true) = some documentYZ := by
  have text : documentYZ.render true = "\x7b\n  \"id\": \"y/z\"\n\x7d" := by
    simp only [Json.render, documentYZ, Json.print, Json.printMembers]
    cbv
  rw [text]
  cbv

/-- The document is put under another id, and the index rebuilt. -/
def slashedChanges : List StoreChange :=
  [.put "a" "x" documentYZ false, .rebuild "a"]

/-- The document that was put. -/
def Slashed (id : String) (document : Json) : Prop :=
  id = "x" ∧ document = documentYZ

/-- The state after the document was put. -/
def storedYZ : StoreState :=
  let entries := [("x", documentPath "." "a" "x")]
  ⟨⟨".", [("a", entries)]⟩, storedFiles (.empty []) [] "a" "x" documentYZ entries⟩

theorem put_storedYZ :
    (put "a" "x" documentYZ false).run ⟨⟨".", [("a", [])]⟩, .empty []⟩ = (.ok true, storedYZ) :=
  @put_of_usable ⟨⟨".", [("a", [])]⟩, .empty []⟩ "." [] empty_working.layout rfl "a" "x" documentYZ
    false [] named_a (by decide) rfl (by simp) usable_x followed_x listable_a

theorem changed_storedYZ : Changed Slashed "." ["a"] (.empty []) storedYZ := by
  have opened : Changed Slashed "." ["a"] (.empty []) ⟨⟨".", [("a", [])]⟩, .empty []⟩ :=
    .opened (load_working (by simpa using And.intro named_a.noSlash listable_a))
  have permitted : (StoreChange.put "a" "x" documentYZ false).Permitted Slashed := by
    intro read parsed
    exact ⟨rfl, Option.some.inj (parsed.symm.trans readable_documentYZ)⟩
  have run := opened.change _ permitted
  rw [StoreChange.run, put_storedYZ] at run
  exact run

theorem shows_storedYZ : Shows storedYZ.files (folder "." "a") "y/z" := by
  have named : ∀ name ∈ ["a"], FolderName name := by simpa using named_a.folderName
  have tended := changed_storedYZ.tended empty_working named
  obtain ⟨_, _, housed, -⟩ := tended.known "a" List.mem_cons_self
  have held : storedYZ.files.entry? ["a", fileName "x"] =
      some (.file (.text (documentYZ.render true))) := rfl
  have located : storedYZ.files.locate true (innerPath "." "a" (fileName "x")) =
      .ok ["a", fileName "x"] :=
    tended.layout.locate_inner named_a.followed followed_x usable_x rfl true
  rw [housed.shows_iff tended.layout tended.unshadowed named_a.toPlainName]
  refine ⟨fileName "x", by simp [held], ?_⟩
  rw [idOfFile?, readDocument_of_located located, held]
  simp only [readable_documentYZ]
  rfl

/-- The empty store in the working folder, and the state after both changes. -/
def unlistedX : StoreState :=
  ⟨⟨".", [("a", [])]⟩, .empty []⟩

def slashedX : StoreState :=
  changeAll slashedChanges unlistedX

theorem slashedX_eq : slashedX = ((StoreChange.rebuild "a").run storedYZ).2 := by
  rw [slashedX, slashedChanges, changeAll, changeAll, changeAll, StoreChange.run, unlistedX,
    put_storedYZ]

theorem changed_slashedX : Changed Slashed "." ["a"] (.empty []) slashedX := by
  rw [slashedX_eq]
  exact changed_storedYZ.change (.rebuild "a") trivial

/-- After the rebuild the document is listed under the id that it gives itself. -/
theorem listed_slashedX : ∃ ids, slashedX.store.ids "a" = .ok ids ∧ "y/z" ∈ ids := by
  have named : ∀ name ∈ ["a"], FolderName name := by simpa using named_a.folderName
  have listable : ∀ name ∈ ["a"], UsablePath (indexFile "." name) := by simpa using listable_a
  have tended := changed_storedYZ.tended empty_working named
  have known : storedYZ.store.entries "a" = .ok [("x", documentPath "." "a" "x")] := rfl
  obtain ⟨later, held, listed⟩ :=
    tended.mem_ids_rebuildAll named listable List.mem_cons_self known ["a"] "y/z"
  rw [if_pos List.mem_cons_self] at listed
  rw [rebuildAll, rebuildAll, ← run_rebuild, ← slashedX_eq] at held
  exact ⟨later.map (·.1), ids_eq_ok_iff.mpr ⟨later, held, rfl⟩, listed.mpr shows_storedYZ⟩

/-- The id is refused: the rebuild came upon it in the document that was put under another. -/
theorem put_of_listed_slashed :
    EmptyFolder unlistedX.files "." [] ∧ (∀ name ∈ ["a"], FolderName name) ∧
      Changed Slashed "." ["a"] (.empty []) slashedX ∧
      ∃ ids, slashedX.store.ids "a" = .ok ids ∧ "y/z" ∈ ids ∧ isValidId "y/z" = false ∧
        ((put "a" "y/z" (.object []) true).run slashedX).1 = .error (.invalidId "y/z") ∧
        (∃ earlier later, slashedChanges = earlier ++ .rebuild "a" :: later ∧
          Shows (changeAll earlier unlistedX).files (folder "." "a") "y/z") ∧
        ∃ key document, Slashed key document ∧ givenId? document = some "y/z" := by
  have named : ∀ name ∈ ["a"], FolderName name := by simpa using named_a.folderName
  have invalid : isValidId "y/z" = false := by decide
  obtain ⟨ids, known, listed⟩ := listed_slashedX
  obtain ⟨refused, found, given⟩ := put_of_listed known listed
  refine ⟨empty_working, named, changed_slashedX, ids, known, listed, invalid,
    (refused _).mpr invalid, ?_, ?_⟩
  · exact found unlistedX slashedChanges (by simp [unlistedX]) rfl invalid
  · exact given empty_working named changed_slashedX invalid

/-- From an empty folder a put and a rebuild lead to an id that is listed and cannot be put
again. -/
theorem listed_id_refused :
    load (.empty []) "." ["a"] = .ok unlistedX.store ∧ EmptyFolder unlistedX.files "." [] ∧
      ∃ ids, slashedX.store.ids "a" = .ok ids ∧ "y/z" ∈ ids ∧ isValidId "y/z" = false ∧
        ∀ document, (put "a" "y/z" document true).run slashedX =
          (.error (.invalidId "y/z"), slashedX) := by
  have invalid : isValidId "y/z" = false := by decide
  obtain ⟨ids, known, listed⟩ := listed_slashedX
  have loaded : load (.empty []) "." ["a"] = .ok unlistedX.store :=
    load_working (by simpa using And.intro named_a.noSlash listable_a)
  exact ⟨loaded, empty_working, ids, known, listed, invalid, fun _ => put_of_invalid invalid⟩

end Store

end AnswerGraph
