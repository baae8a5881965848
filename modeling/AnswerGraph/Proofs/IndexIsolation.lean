import AnswerGraph.Proofs.StoreUpkeep

/-!
Indexes beside each other. A change of one index leaves the documents of every other as they were,
in the open store and for whoever opens it next. This needs names that are single names, and none
that is the name of the folder of index files: the documents of such an index are put where the
index files of the others lie.
-/

namespace AnswerGraph

open FileTree (Layout UsablePath Followed Confined)

namespace Store

open StoreAction StoreChange

section Steps

variable {puts : String → Json → Prop} {names : List String} {state : StoreState} {root : String}
  {place : Location} {other : String}

/-- The documents of an index are found as before if its entries stay and no file in its folder is
touched. -/
theorem Tended.get_eq (tended : Tended puts root place names state)
    {touched : String → String → Prop} {after : FileTree}
    (confined : Confined touched root place state.files after)
    (untouched : other ∈ names → ∀ file, ¬ touched other file) {store : Store}
    (kept : store.entries other = state.store.entries other) (id : String) :
    store.get after other id = state.store.get state.files other id := by
  rw [Store.get_eq, Store.get_eq, kept]
  cases known : state.store.entries other with
  | error fault => rfl
  | ok entries =>
    cases found : entries.lookup id with
    | none => simp only [Except.map, found]
    | some path =>
      -- A listed path leads to the file of some key in the folder of its own index.
      have member := tended.member known
      obtain ⟨_, again, housed, -⟩ := tended.known other member
      cases again.symm.trans known
      obtain ⟨key, rfl, addressed, -⟩ := housed.addressed _ (Keyed.mem_of_lookup found)
      have located := addressed.located tended.layout true
      have same : readDocument after (documentPath root other key) =
          readDocument state.files (documentPath root other key) := by
        have again := confined.keeps.locate located
        rw [readDocument_of_located located, readDocument_of_located again,
          confined.elsewhere (untouched member (fileName key))]
      simp only [Except.map, found, same]

/-- Whatever a store that started out empty has come to, a change of one index, even one that fails,
leaves the ids and the documents of the others as they were. They are there as well once the store
is opened again, for which the names of all index files have to be short enough. -/
theorem others_of_change {start : FileTree} (empty : EmptyFolder start root place)
    (named : ∀ name ∈ names, FolderName name)
    (run : Changed (fun _ _ => True) root names start state) (change : StoreChange)
    (different : other ≠ change.index) :
    let after := (change.run state).2
    (after.store.ids other = state.store.ids other ∧
      ∀ id, after.store.get after.files other id = state.store.get state.files other id) ∧
    ((∀ name ∈ names, IndexName name) →
      ∃ reopened, load after.files root names = .ok reopened ∧
        reopened.ids other = state.store.ids other ∧
        ∀ id, reopened.get after.files other id = state.store.get state.files other id) := by
  intro after
  have tended := run.tended empty named
  have listable := run.listable named
  obtain ⟨next, confined, kept⟩ := tended.change_step named listable (permitted_all change)
  have stays := kept other different
  have untouched (member : other ∈ names) (file : String) : ¬ change.Touches other file := by
    intro touches
    rcases touches.cases with own | ⟨listed, -⟩
    · exact different own
    · exact (named other member).apart listed
  refine ⟨⟨?_, fun id => tended.get_eq confined untouched stays id⟩, ?_⟩
  · rw [Store.ids, Store.ids, stays]
  · intro short
    obtain ⟨reopened, loaded, same⟩ := next.load_entries short listable
    have again := (same other).trans stays
    refine ⟨reopened, loaded, ?_, fun id => tended.get_eq confined untouched again id⟩
    rw [Store.ids, Store.ids, again]

end Steps

/-! ## Documents beside index files -/

theorem named_b : IndexName "b" :=
  ⟨⟨by decide, by decide, by decide, by decide⟩, by decide, by decide⟩

theorem listable_b : UsablePath (indexFile "." "b") :=
  ⟨by decide, by decide, by decide⟩

/-- The document of the first index is found after one was put into the second, and after the store
was opened again. -/
theorem others_of_change_neighbour :
    EmptyFolder (.empty []) "." [] ∧ (∀ name ∈ ["a", "b"], FolderName name) ∧
      (∀ name ∈ ["a", "b"], IndexName name) ∧
      Changed (fun _ _ => True) "." ["a", "b"] (.empty []) (holdingX ["a", "b"]) ∧ "a" ≠ "b" ∧
      ∃ after, (StoreChange.run (holdingX ["a", "b"]) (.put "b" "y" (.object []) false)).2 = after ∧
        after.store.ids "a" = .ok ["x"] ∧ ∃ reopened,
          load after.files "." ["a", "b"] = .ok reopened ∧ reopened.ids "a" = .ok ["x"] := by
  have short : ∀ name ∈ ["a", "b"], IndexName name := by
    simpa using And.intro named_a named_b
  have named : ∀ name ∈ ["a", "b"], FolderName name := fun name member =>
    (short name member).folderName
  have listable : ∀ name ∈ ["a", "b"], '/' ∉ name.toList ∧ UsablePath (indexFile "." name) := by
    simpa using And.intro (And.intro named_a.noSlash listable_a)
      (And.intro named_b.noSlash listable_b)
  have run := changed_holdingX List.mem_cons_self listable (permitted_all _)
  have apart : "a" ≠ "b" := by decide
  have held : (holdingX ["a", "b"]).store.ids "a" = .ok ["x"] := rfl
  obtain ⟨⟨live, -⟩, later⟩ := others_of_change empty_working named run
    (.put "b" "y" (.object []) false) apart
  obtain ⟨reopened, loaded, listed, -⟩ := later short
  exact ⟨empty_working, named, short, run, apart, _, rfl, live.trans held, reopened, loaded,
    listed.trans held⟩

/-- The working folder after a document was put under the id `a` into an index that has the name of
the folder of index files. -/
def overwrittenX : StoreState :=
  let names := ["a", "indexes"]
  let entries := [("a", documentPath "." "indexes" "a")]
  ⟨(holdingX names).store.withEntries "indexes" entries,
    ((holdingX names).files.putFile [] "indexes" (fileName "a")
        (.text ((Json.object []).render true))).putFile [] "indexes" (fileName "indexes")
      (.text (entriesText entries))⟩

theorem put_overwrittenX :
    (put "indexes" "a" (.object []) false).run (holdingX ["a", "indexes"]) =
      (.ok true, overwrittenX) := by
  let names := ["a", "indexes"]
  let middle : StoreState := ⟨(holdingX names).store, (holdingX names).files.putFile [] "indexes"
    (fileName "a") (.text ((Json.object []).render true))⟩
  have layout : Layout (holdingX names).files "." [] := layout_holdingX names
  have moved : Layout middle.files "." [] := layout.putFile ..
  have placed := placeFile_run layout followed_indexes named_a.followed_file listable_a
    ((Json.object []).render true)
  have saved := saveEntries_run_layout moved rfl plain_indexes.noSlash
    ⟨plain_fileName plain_indexes.noSlash, by decide⟩ listable_indexes
    [("a", documentPath "." "indexes" "a")]
  have known : (holdingX names).store.entries "indexes" = .ok [] := rfl
  have rooted : (holdingX names).store.root = "." := rfl
  rw [put_of_allowed (by decide) known (by simp), rooted, run_bind]
  simp only [folder, documentPath_eq, middle, names] at placed saved ⊢
  simp only [placed, run_bind, Keyed.insert, saved, run_pure, overwrittenX, documentPath_eq]

/-- The index file of the first index holds the document, and that of the second the entry of it. -/
theorem load_overwrittenX :
    ∃ reopened, load overwrittenX.files "." ["a", "indexes"] = .ok reopened ∧
      reopened.ids "a" = .ok [] := by
  let entries := [("a", documentPath "." "indexes" "a")]
  have layout : Layout overwrittenX.files "." [] :=
    ((layout_holdingX ["a", "indexes"]).putFile ..).putFile ..
  have followed : Followed (fileName "indexes") :=
    ⟨plain_fileName plain_indexes.noSlash, by decide⟩
  have present : overwrittenX.files.entry? ([] ++ ["indexes"]) = some .folder := rfl
  have first := layout.locate_inner followed_indexes named_a.followed_file listable_a present true
  have second := layout.locate_inner followed_indexes followed listable_indexes present true
  have spoilt : readIndex overwrittenX.files (indexFile "." "a") = .ok [] := by
    have held : overwrittenX.files.entry? ([] ++ ["indexes", fileName "a"]) =
        some (.file (.text ((Json.object []).render true))) := rfl
    rw [readIndex, indexFile_eq, FileTree.readText_of_located first held]
    cbv
  have read : readIndex overwrittenX.files (indexFile "." "indexes") = .ok entries :=
    readIndex_of_written second rfl (List.pairwise_singleton _ _)
  let contents (name : String) : DocumentIndex := if name = "a" then [] else entries
  have all : ∀ name ∈ ["a", "indexes"],
      readIndex overwrittenX.files (indexFile "." name) = .ok (contents name) := by
    simpa [contents] using And.intro spoilt read
  exact ⟨_, load_of_read all, rfl⟩

/-- The name of the folder of index files is accepted as that of an index. A document that is put
there is written over the index file of another index, whose documents are gone when the store is
opened again. -/
theorem index_lost_beside_indexes :
    let names := ["a", "indexes"]
    names.Nodup ∧ EmptyFolder (.empty []) "." [] ∧
      Changed (fun _ _ => True) "." names (.empty []) (holdingX names) ∧ "a" ≠ "indexes" ∧
      (holdingX names).store.ids "a" = .ok ["x"] ∧
      ∃ after reopened,
        (put "indexes" "a" (.object []) false).run (holdingX names) = (.ok true, after) ∧
        load after.files "." names = .ok reopened ∧ reopened.ids "a" = .ok [] := by
  intro names
  have listable : ∀ name ∈ names, '/' ∉ name.toList ∧ UsablePath (indexFile "." name) := by
    simpa [names] using And.intro (And.intro named_a.noSlash listable_a)
      (And.intro plain_indexes.noSlash listable_indexes)
  obtain ⟨reopened, loaded, listed⟩ := load_overwrittenX
  have run := changed_holdingX List.mem_cons_self listable (permitted_all _)
  exact ⟨by decide, empty_working, run, by decide, rfl, overwrittenX, reopened, put_overwrittenX,
    loaded, listed⟩

end Store

end AnswerGraph
