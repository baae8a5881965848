import AnswerGraph.Proofs.StoreUpkeep

/-!
Documents that are deleted. The entry of a document goes with its file, but a rebuild gives every
document that it finds the id that the document gives itself. So a deleted id is listed again if
another file of the folder has a document with that id, and this can only be one that was put under
an id other than its own.
-/

namespace AnswerGraph

open FileTree (Layout UsablePath Followed Keeps Confined innerPath)

namespace Store

open StoreAction StoreChange

/-- The state after some indexes were rebuilt, one after the other, whether this succeeds or not. -/
def rebuildAll : List String → StoreState → StoreState
  | [], state => state
  | index :: rest, state => rebuildAll rest ((rebuild index).run state).2

section Removal

variable {puts : String → Json → Prop} {names : List String} {state after : StoreState}
  {root index other id : String} {place : Location} {entries : DocumentIndex} {files : FileTree}

/-! ## Rebuilding one index after another -/

/-- The entries that are found are in memory, whether the index file can be written or not. -/
theorem store_rebuild {found : DocumentIndex} (known : state.store.entries index = .ok entries)
    (searched : foundEntries state.files (folder state.store.root index) = .ok found) :
    ((rebuild index).run state).2.store = state.store.withEntries index found := by
  obtain ⟨saved, files, ran⟩ := saveEntries_run_files index found state
  rw [rebuild, run_bind, run_entries, known]
  simp only [run_bind, run_state, run_lift, searched, ran]
  cases saved <;> rfl

/-- A rebuild changes the entries of its index to those that are found, or none at all. -/
theorem rebuild_cases (index : String) (state : StoreState) :
    ((rebuild index).run state).2.store = state.store ∨
      ∃ old found, state.store.entries index = .ok old ∧
        foundEntries state.files (folder state.store.root index) = .ok found ∧
        ((rebuild index).run state).2.store = state.store.withEntries index found := by
  cases known : state.store.entries index with
  | error fault =>
    rw [rebuild, run_bind, run_entries, known]
    exact .inl rfl
  | ok old =>
    cases searched : foundEntries state.files (folder state.store.root index) with
    | error fault =>
      refine .inl ?_
      rw [rebuild, run_bind, run_entries, known]
      simp only [run_bind, run_state, run_lift, searched]
    | ok found => exact .inr ⟨old, found, rfl, rfl, store_rebuild known searched⟩

theorem root_rebuild (index : String) (state : StoreState) :
    ((rebuild index).run state).2.store.root = state.store.root := by
  rcases rebuild_cases index state with same | ⟨old, found, -, -, same⟩
  · rw [same]
  · rw [same]
    rfl

theorem known_rebuildAll (rebuilds : List String) (state : StoreState)
    (known : state.store.entries index = .ok entries) :
    ∃ later, (rebuildAll rebuilds state).store.entries index = .ok later := by
  induction rebuilds generalizing state entries with
  | nil => exact ⟨entries, known⟩
  | cons first rest ih =>
    rcases rebuild_cases first state with same | ⟨old, found, -, -, same⟩
    · exact ih _ (same ▸ known)
    · by_cases own : index = first
      · subst first
        exact ih _ (same ▸ entries_withEntries known found)
      · exact ih _ (same ▸ (entries_withEntries_of_ne _ own found).trans known)

/-- An id that is listed after some rebuilds was listed before, or one of them came upon it. -/
theorem mem_ids_rebuildAll (rebuilds : List String) (state : StoreState)
    (known : (rebuildAll rebuilds state).store.entries index = .ok entries)
    (listed : id ∈ entries.map (·.1)) :
    (∃ old, state.store.entries index = .ok old ∧ id ∈ old.map (·.1)) ∨
      ∃ earlier rest, rebuilds = earlier ++ index :: rest ∧
        Shows (rebuildAll earlier state).files (folder state.store.root index) id := by
  induction rebuilds generalizing state with
  | nil => exact .inl ⟨entries, known, listed⟩
  | cons first rest ih =>
    rcases ih _ known with ⟨old, held, member⟩ | ⟨earlier, later, split, shows⟩
    · rcases rebuild_cases first state with same | ⟨_, found, present, searched, same⟩
      · rw [same] at held
        exact .inl ⟨old, held, member⟩
      · rw [same] at held
        by_cases own : index = first
        · subst first
          obtain rfl := Except.ok.inj ((entries_withEntries present found).symm.trans held)
          exact .inr ⟨[], rest, rfl, (mem_ids_foundEntries searched).mp member⟩
        · rw [entries_withEntries_of_ne _ own] at held
          exact .inl ⟨old, held, member⟩
    · rw [root_rebuild] at shows
      exact .inr ⟨first :: earlier, later, by rw [split, List.cons_append], shows⟩

/-! ## Rebuilding a store in order -/

theorem run_rebuild (index : String) (state : StoreState) :
    ((StoreChange.rebuild index).run state).2 = ((rebuild index).run state).2 := rfl

/-- What a search comes upon depends on the folder of the index only. -/
theorem Housed.shows_congr {before : FileTree}
    (housed : Housed puts before root place index entries) (layout : Layout before root place)
    (unshadowed : before.Unshadowed place) {touched : String → String → Prop}
    (confined : Confined touched root place before files) (untouched : ∀ file, ¬ touched index file)
    (plain : PlainName index) (id : String) :
    Shows files (folder root index) id ↔ Shows before (folder root index) id := by
  have own (file : String) := confined.elsewhere (untouched file)
  rw [housed.shows_iff layout unshadowed plain,
    (housed.keep confined.keeps own).shows_iff confined.layout confined.unshadowed plain]
  refine exists_congr fun file => ?_
  rw [own file]
  refine and_congr_right fun present => ?_
  obtain ⟨key, text, rfl, addressed, -⟩ := housed.filed present
  have located := addressed.located layout true
  rw [← documentPath_eq, idOfFile?, idOfFile?, readDocument_of_located located,
    readDocument_of_located (confined.keeps.locate located), own]

/-- After some rebuilds an index lists what the search of its folder came upon at the start, if it
is among those rebuilt. -/
theorem Tended.mem_ids_rebuildAll (tended : Tended puts root place names state)
    (named : ∀ name ∈ names, FolderName name)
    (listable : ∀ name ∈ names, UsablePath (indexFile root name)) (member : index ∈ names)
    (known : state.store.entries index = .ok entries) (rebuilds : List String) (id : String) :
    ∃ later, (rebuildAll rebuilds state).store.entries index = .ok later ∧
      (id ∈ later.map (·.1) ↔
        if index ∈ rebuilds then Shows state.files (folder root index) id
        else id ∈ entries.map (·.1)) := by
  induction rebuilds generalizing state entries with
  | nil => exact ⟨entries, known, by simp⟩
  | cons first rest ih =>
    obtain ⟨_, again, housed, -⟩ := tended.known index member
    cases again.symm.trans known
    obtain ⟨next, confined, others⟩ :=
      @Tended.change_step _ _ _ _ _ (.rebuild first) tended named listable trivial
    have shows := housed.shows_congr tended.layout tended.unshadowed confined
      (fun file wrote => (named index member).apart wrote.1) (named index member).toPlainName id
    rw [run_rebuild] at next confined others shows
    by_cases own : index = first
    · subst first
      obtain ⟨found, searched, -⟩ :=
        housed.found tended.layout tended.unshadowed (named index member).toPlainName
      rw [← tended.rooted] at searched
      have listed : ((rebuild index).run state).2.store.entries index = .ok found := by
        rw [store_rebuild known searched, entries_withEntries known]
      obtain ⟨later, held, same⟩ := ih next listed
      refine ⟨later, held, same.trans ?_⟩
      rw [if_pos List.mem_cons_self, mem_ids_foundEntries searched, tended.rooted, shows, ite_self]
    · obtain ⟨later, held, same⟩ := ih next ((others index own).trans known)
      refine ⟨later, held, same.trans ?_⟩
      simp only [List.mem_cons, own, false_or, shows]

/-! ## Deleting a document -/

/-- A document that was deleted had an entry, and the file that this led to is gone. -/
theorem removeFile_of_removed (removed : (remove index id).run state = (.ok true, after)) :
    ∃ entries path files, state.store.entries index = .ok entries ∧
      entries.lookup id = some path ∧
      (StoreAction.removeFile path).run state = (.ok (), { state with files }) ∧
      (saveEntries index (Keyed.erase id entries)).run ⟨state.store, files⟩ = (.ok (), after) := by
  cases known : state.store.entries index with
  | error fault =>
    rw [remove_of_unknown known] at removed
    cases removed
  | ok entries =>
    cases found : entries.lookup id with
    | none =>
      rw [remove_of_absent known found] at removed
      cases removed
    | some path =>
      rw [remove_of_present known found, run_bind] at removed
      obtain ⟨result, files, ran, -⟩ := removeFile_run_files path state
      rw [ran] at removed
      cases result with
      | error fault => cases removed
      | ok =>
        obtain ⟨saved, final, kept⟩ :=
          saveEntries_run_files index (Keyed.erase id entries) ⟨state.store, files⟩
        simp only [run_bind, kept] at removed
        cases saved with
        | error fault => cases removed
        | ok =>
          cases removed
          exact ⟨entries, path, files, rfl, found, ran, kept⟩

theorem entries_of_removed (removed : (remove index id).run state = (.ok true, after)) :
    after.store.root = state.store.root ∧ ∃ entries, state.store.entries index = .ok entries ∧
      after.store.entries index = .ok (Keyed.erase id entries) := by
  obtain ⟨entries, path, files, known, -, -, saved⟩ := removeFile_of_removed removed
  obtain ⟨_, final, ran⟩ :=
    saveEntries_run_files index (Keyed.erase id entries) ⟨state.store, files⟩
  have store : after.store = state.store.withEntries index (Keyed.erase id entries) :=
    congrArg (·.2.store) (saved.symm.trans ran)
  rw [store]
  exact ⟨rfl, entries, known, entries_withEntries known _⟩

theorem not_mem_ids_erase (id : String) (entries : DocumentIndex) :
    id ∉ (Keyed.erase id entries).map (·.1) := by
  intro listed
  obtain ⟨entry, member, same⟩ := List.mem_map.mp listed
  exact (Keyed.mem_erase.mp member).2 same

theorem Tended.after_removed (tended : Tended puts root place names state)
    (named : ∀ name ∈ names, FolderName name)
    (listable : ∀ name ∈ names, UsablePath (indexFile root name))
    (removed : (remove index id).run state = (.ok true, after)) :
    Tended puts root place names after := by
  obtain ⟨next, -⟩ :=
    @Tended.change_step _ _ _ _ _ (.remove index id) tended named listable trivial
  rw [StoreChange.run, removed] at next
  exact next

/-- The file of a document that does not contradict its id is gone when the document is deleted. -/
theorem Tended.entry?_removed (tended : Tended puts root place names state)
    (named : ∀ name ∈ names, FolderName name) (faithful : Faithful puts)
    (removed : (remove index id).run state = (.ok true, after)) :
    after.files.entry? (place ++ [index, fileName id]) = none := by
  obtain ⟨entries, path, files, known, found, deleted, saved⟩ := removeFile_of_removed removed
  have member := tended.member known
  have plain := (named index member).toPlainName
  obtain ⟨_, again, housed, -⟩ := tended.known index member
  cases again.symm.trans known
  have prepared : Prepares state (.remove index id) (Keyed.erase id entries) files :=
    .remove known found deleted
  obtain ⟨worked, -⟩ := @Housed.prepare puts state root place _ files (.remove index id) entries
    housed known tended.rooted tended.layout tended.unshadowed plain trivial prepared
  obtain ⟨key, rfl, addressed, own⟩ := housed.addressed _ (Keyed.mem_of_lookup found)
  obtain rfl : key = id := own faithful
  obtain ⟨_, final, ran, listed⟩ :=
    @saveEntries_confined ⟨state.store, files⟩ root index place worked.layout worked.unshadowed
      tended.rooted plain.noSlash (Keyed.erase key entries)
  obtain rfl := congrArg Prod.snd (ran.symm.trans saved)
  rw [listed.elsewhere fun wrote => (named index member).apart wrote.1]
  rcases removeFile_addressed tended.layout addressed deleted with ⟨absent, rfl⟩ | rfl
  · exact absent
  · rw [FileTree.entry?_erase _ (by simp), if_pos rfl]

/-- If no document contradicts its id then none is left that has the deleted id. -/
theorem Tended.not_shows_removed (tended : Tended puts root place names state)
    (named : ∀ name ∈ names, FolderName name)
    (listable : ∀ name ∈ names, UsablePath (indexFile root name)) (faithful : Faithful puts)
    (removed : (remove index id).run state = (.ok true, after)) :
    ¬ Shows after.files (folder root index) id := by
  have next := tended.after_removed named listable removed
  obtain ⟨-, entries, known, -⟩ := entries_of_removed removed
  have member := tended.member known
  obtain ⟨_, _, housed, -⟩ := next.known index member
  rw [housed.shows_iff next.layout next.unshadowed (named index member).toPlainName]
  rintro ⟨file, present, own⟩
  rw [housed.eq_of_idOfFile? next.layout faithful present own] at present
  exact present (tended.entry?_removed named faithful removed)

/-- Nothing is found under an id if and only if it is not listed. -/
theorem get_eq_none_iff {store : Store} (known : store.entries index = .ok entries) :
    store.get files index id = .ok none ↔ id ∉ entries.map (·.1) := by
  rw [get_eq, known]
  cases found : entries.lookup id with
  | none =>
    simp only [Except.map, found, true_iff]
    intro listed
    obtain ⟨entry, member, rfl⟩ := List.mem_map.mp listed
    exact bne_iff_ne.mp (List.lookup_eq_none_iff.mp found entry member) rfl
  | some path =>
    have listed : id ∈ entries.map (·.1) := List.mem_map.mpr ⟨_, Keyed.mem_of_lookup found, rfl⟩
    simp only [Except.map, found, listed, not_true, iff_false]
    cases readDocument files path <;> simp

/-- What becomes of a document that was deleted. As long as its id is not listed it is not found.
Rebuilds list the id again only if one of them comes upon a document of that id in the folder of the
index. For a store that started out empty this is decided when the document is deleted: the id is
listed again if and only if its index is rebuilt and the folder still shows a document of that id,
which it never does if no document contradicts the id that it was put under. -/
theorem ids_of_removed (removed : (remove index id).run state = (.ok true, after))
    (rebuilds : List String) :
    let later := rebuildAll rebuilds after
    let searched := folder state.store.root index
    ∃ ids, later.store.ids index = .ok ids ∧
      (later.store.get later.files index id = .ok none ↔ id ∉ ids) ∧
      (id ∈ ids → ∃ earlier rest, rebuilds = earlier ++ index :: rest ∧
        Shows (rebuildAll earlier after).files searched id) ∧
      ∀ {puts root names start place}, EmptyFolder start root place →
        (∀ name ∈ names, FolderName name) → Changed puts root names start state →
        (id ∈ ids ↔ index ∈ rebuilds ∧ Shows after.files searched id) ∧
        (Faithful puts → id ∉ ids) := by
  intro later searched
  obtain ⟨rooted, entries, known, left⟩ := entries_of_removed removed
  -- The removal takes the id from the entries, so that only a rebuild can bring it back.
  have unlisted := not_mem_ids_erase id entries
  obtain ⟨listing, held⟩ := known_rebuildAll rebuilds after left
  refine ⟨listing.map (·.1), ?_, get_eq_none_iff held, ?_, ?_⟩
  · rw [Store.ids, held]
    rfl
  · intro listed
    rcases mem_ids_rebuildAll rebuilds after held listed with ⟨old, again, member⟩ | found
    · obtain rfl := Except.ok.inj (left.symm.trans again)
      exact absurd member unlisted
    · rw [rooted] at found
      exact found
  · intro puts root names start place empty named run
    have tended := run.tended empty named
    have listable := run.listable named
    obtain rfl := tended.rooted
    have next := tended.after_removed named listable removed
    obtain ⟨again, same, decided⟩ :=
      next.mem_ids_rebuildAll named listable (tended.member known) left rebuilds id
    obtain rfl := Except.ok.inj (held.symm.trans same)
    have listed_iff : id ∈ listing.map (·.1) ↔
        index ∈ rebuilds ∧ Shows after.files searched id := by
      rw [decided]
      by_cases rebuilt : index ∈ rebuilds
      · rw [if_pos rebuilt]
        exact (and_iff_right rebuilt).symm
      · rw [if_neg rebuilt]
        exact iff_of_false unlisted fun both => rebuilt both.1
    refine ⟨listed_iff, ?_⟩
    intro faithful listed
    exact tended.not_shows_removed named listable faithful removed (listed_iff.mp listed).2

end Removal

/-- A document that gives itself no id stays away once it was deleted. -/
theorem ids_of_removed_unnamed :
    EmptyFolder (.empty []) "." [] ∧ (∀ name ∈ ["a"], FolderName name) ∧
      Changed Spells "." ["a"] (.empty []) (holdingX ["a"]) ∧ Faithful Spells ∧
      ∃ after, (remove "a" "x").run (holdingX ["a"]) = (.ok true, after) ∧
        ∃ ids, (rebuildAll ["a", "a"] after).store.ids "a" = .ok ids ∧ "x" ∉ ids := by
  have named : ∀ name ∈ ["a"], FolderName name := by simpa using named_a.folderName
  have permitted : (StoreChange.put "a" "x" (.object []) false).Permitted Spells := by
    intro read parsed given found
    cases readable_empty.symm.trans parsed
    cases found
  have run : Changed Spells "." ["a"] (.empty []) (holdingX ["a"]) :=
    changed_holdingX List.mem_cons_self (by simpa using And.intro named_a.noSlash listable_a)
      permitted
  have filed : Filed (holdingX ["a"]).files "." [] "a" "x" (.object []) :=
    ⟨usable_x, followed_x, folder_storedFiles empty_working.layout ..,
      held_storedFiles empty_working.layout named_a.apart .., readable_empty⟩
  have removed := remove_of_filed (layout_holdingX ["a"]) rfl named_a rfl rfl filed listable_a
  have faithful : Faithful Spells := fun _ _ => id
  obtain ⟨ids, listed, -, -, decided⟩ := ids_of_removed removed ["a", "a"]
  exact ⟨empty_working, named, run, faithful, _, removed, ids, listed,
    (decided empty_working named run).2 faithful⟩

/-! ## A document that is found under the id that was deleted -/

/-- The state after a document that gives itself the id `y` was put under `x`, and another under
`y`. -/
def holdingXY : StoreState :=
  let entries := [("x", documentPath "." "a" "x"), ("y", documentPath "." "a" "y")]
  ⟨⟨".", [("a", entries)]⟩, storedFiles filesX [] "a" "y" (.object []) entries⟩

theorem usable_y : UsablePath (documentPath "." "a" "y") :=
  ⟨by decide, by decide, by decide⟩

theorem followed_y : Followed (fileName "y") :=
  ⟨plain_fileName (by decide), by decide⟩

theorem put_holdingXY :
    (put "a" "y" (.object []) false).run
        ⟨⟨".", [("a", [("x", documentPath "." "a" "x")])]⟩, filesX⟩ = (.ok true, holdingXY) := by
  let stored : StoreState := ⟨⟨".", [("a", [("x", documentPath "." "a" "x")])]⟩, filesX⟩
  have layout : Layout stored.files "." [] := layout_filesX
  have known : stored.store.entries "a" = .ok [("x", documentPath "." "a" "x")] := rfl
  exact put_of_usable layout rfl named_a (by decide) known (by decide) usable_y followed_y
    listable_a

theorem changed_holdingXY : Changed (fun _ _ => True) "." ["a"] (.empty []) holdingXY := by
  have opened : Changed (fun _ _ => True) "." ["a"] (.empty []) ⟨⟨".", [("a", [])]⟩, .empty []⟩ :=
    .opened (load_working (by simpa using And.intro named_a.noSlash listable_a))
  have first := opened.change (.put "a" "x" documentY false) (permitted_all _)
  rw [StoreChange.run, put_x rfl rfl] at first
  have second := first.change (.put "a" "y" (.object []) false) (permitted_all _)
  have ran := put_holdingXY
  rw [StoreChange.run] at second
  simp only [withEntries, List.map_cons, List.map_nil, if_true] at second
  rw [ran] at second
  exact second

/-- The state after the document was deleted that was put under `y`. -/
def removedXY : StoreState :=
  ⟨holdingXY.store.withEntries "a" [("x", documentPath "." "a" "x")],
    (holdingXY.files.erase ["a", fileName "y"]).putFile [] "indexes" (fileName "a")
      (.text (entriesText [("x", documentPath "." "a" "x")]))⟩

theorem remove_holdingXY : (remove "a" "y").run holdingXY = (.ok true, removedXY) := by
  have layout : Layout holdingXY.files "." [] := layout_storedFiles layout_filesX ..
  have filed : Filed holdingXY.files "." [] "a" "y" (.object []) :=
    ⟨usable_y, followed_y, folder_storedFiles layout_filesX .., held_storedFiles layout_filesX
      named_a.apart .., readable_empty⟩
  exact remove_of_filed layout rfl named_a rfl rfl filed listable_a

theorem tended_removedXY : Tended (fun _ _ => True) "." [] ["a"] removedXY := by
  have named : ∀ name ∈ ["a"], FolderName name := by simpa using named_a.folderName
  have listable : ∀ name ∈ ["a"], UsablePath (indexFile "." name) := by simpa using listable_a
  exact (changed_holdingXY.tended empty_working named).after_removed named listable
    remove_holdingXY

/-- The document that is left gives itself the deleted id. -/
theorem shows_removedXY : Shows removedXY.files (folder "." "a") "y" := by
  obtain ⟨_, _, housed, -⟩ := tended_removedXY.known "a" List.mem_cons_self
  have held : removedXY.files.entry? ["a", fileName "x"] =
      some (.file (.text (documentY.render true))) := rfl
  have located : removedXY.files.locate true (innerPath "." "a" (fileName "x")) =
      .ok ["a", fileName "x"] :=
    tended_removedXY.layout.locate_inner named_a.followed followed_x usable_x rfl true
  rw [housed.shows_iff tended_removedXY.layout tended_removedXY.unshadowed named_a.toPlainName]
  refine ⟨fileName "x", by simp [held], ?_⟩
  rw [idOfFile?, readDocument_of_located located, held]
  simp only [readable_documentY]
  rfl

/-- The deleted id is listed again: another document of the folder gives itself that id. -/
theorem deleted_id_listed_again :
    EmptyFolder (.empty []) "." [] ∧ (∀ name ∈ ["a"], FolderName name) ∧
      Changed (fun _ _ => True) "." ["a"] (.empty []) holdingXY ∧
      ∃ after, (remove "a" "y").run holdingXY = (.ok true, after) ∧
        ∃ ids, (rebuildAll ["a"] after).store.ids "a" = .ok ids ∧ "y" ∈ ids := by
  have named : ∀ name ∈ ["a"], FolderName name := by simpa using named_a.folderName
  have listable : ∀ name ∈ ["a"], UsablePath (indexFile "." name) := by simpa using listable_a
  have known : removedXY.store.entries "a" = .ok [("x", documentPath "." "a" "x")] := rfl
  obtain ⟨later, held, listed⟩ :=
    tended_removedXY.mem_ids_rebuildAll named listable List.mem_cons_self known ["a"] "y"
  rw [if_pos List.mem_cons_self] at listed
  refine ⟨empty_working, named, changed_holdingXY, removedXY, remove_holdingXY,
    later.map (·.1), ?_, listed.mpr shows_removedXY⟩
  rw [Store.ids, held]
  rfl

end Store

end AnswerGraph
