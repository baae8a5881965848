import AnswerGraph.Proofs.StoreLayout

/-!
What putting a document does to the other documents of an index. A document is read from the file
that its entry names, and a rebuilt index may name files by other ids than those they were put
under. So a document keeps its contents as long as its file is not one of the two that are written.
-/

namespace AnswerGraph

open FileTree (Extends Keeps LinkFree Layout UsablePath Followed)

namespace FileTree

/-- Two paths lead to one file. -/
def SameFile (tree : FileTree) (first second : String) : Prop :=
  ∃ place, tree.locate true first = .ok place ∧ tree.locate true second = .ok place

end FileTree

namespace Store

open StoreAction

/-! ## States that a store comes to -/

/-- The states that a store comes to from one that is opened with no documents, on files and folders
without links. -/
inductive Reached (root : String) (names : List String) (start : FileTree) : StoreState → Prop
  | opened {store : Store} (free : start.LinkFree) (loaded : load start root names = .ok store)
      (fresh : ∀ entry ∈ store.indexes, entry.2 = []) : Reached root names start ⟨store, start⟩
  | put {state : StoreState} (earlier : Reached root names start state) (index id : String)
      (document : Json) (overwrite : Bool) :
      Reached root names start ((put index id document overwrite).run state).2
  | remove {state : StoreState} (earlier : Reached root names start state) (index id : String) :
      Reached root names start ((remove index id).run state).2
  | rebuild {state : StoreState} (earlier : Reached root names start state) (index : String) :
      Reached root names start ((rebuild index).run state).2

/-- There are no links, and the path of every entry can be followed. -/
structure Settled (state : StoreState) : Prop where
  free : state.files.LinkFree
  located : ∀ {index entries}, state.store.entries index = .ok entries →
    ∀ entry ∈ entries, ∃ place, state.files.locate true entry.2 = .ok place

theorem Settled.keep {store : Store} {before after : FileTree} (settled : Settled ⟨store, before⟩)
    (keeps : Keeps before after) : Settled ⟨store, after⟩ := by
  refine ⟨keeps.linkFree settled.free, fun known entry member => ?_⟩
  obtain ⟨place, located⟩ := settled.located known entry member
  exact ⟨place, keeps.locate located⟩

theorem Settled.withEntries {store : Store} {files : FileTree} (settled : Settled ⟨store, files⟩)
    {index : String} {old entries : DocumentIndex} (known : store.entries index = .ok old)
    (located : ∀ entry ∈ entries, ∃ place, files.locate true entry.2 = .ok place) :
    Settled ⟨store.withEntries index entries, files⟩ := by
  refine ⟨settled.free, fun {name found} listed entry member => ?_⟩
  by_cases same : name = index
  · subst name
    cases (entries_withEntries known entries).symm.trans listed
    exact located entry member
  · rw [entries_withEntries_of_ne store same] at listed
    exact settled.located listed entry member

theorem PutStep.settled {index id : String} {document : Json} {overwrite : Bool}
    {state after : StoreState} {result : Except StoreError Bool}
    (step : PutStep index id document overwrite state result after) (settled : Settled state) :
    Settled after := by
  cases step with
  | invalid _ => exact settled
  | unknown _ _ => exact settled
  | kept _ _ _ _ => exact settled
  | unwritten _ _ _ stuck => exact settled.keep stuck.grown.keeps
  | stored _ known _ wrote recorded =>
    obtain ⟨place, located, _⟩ := wrote.placed rfl
    have keeps := wrote.grown.keeps.trans recorded.grown.keeps
    refine Settled.withEntries (settled.keep keeps) known fun entry member => ?_
    rcases Keyed.mem_insert member with rfl | old
    · exact ⟨place, recorded.grown.keeps.locate located⟩
    · obtain ⟨place, located⟩ := settled.located known entry old
      exact ⟨place, keeps.locate located⟩

theorem RemoveStep.settled {index id : String} {state after : StoreState}
    {result : Except StoreError Bool} (step : RemoveStep index id state result after)
    (settled : Settled state) : Settled after := by
  cases step with
  | unknown _ => exact settled
  | absent _ _ => exact settled
  | stuck _ _ _ => exact settled
  | @removed entries path middle files saved known found gone recorded =>
    have deleted : Keeps state.files middle := by
      rcases gone with removed | ⟨_, rfl⟩
      · exact FileTree.keeps_of_removeFile settled.free removed
      · exact .refl _
    have keeps := deleted.trans recorded.grown.keeps
    refine Settled.withEntries (settled.keep keeps) known fun entry member => ?_
    obtain ⟨place, located⟩ := settled.located known entry (Keyed.mem_erase.mp member).1
    exact ⟨place, keeps.locate located⟩

/-- Only documents that can be read are found. -/
theorem located_of_found {files : FileTree} {folder : String} {found : DocumentIndex}
    (searched : foundEntries files folder = .ok found) :
    ∀ entry ∈ found, ∃ place, files.locate true entry.2 = .ok place := by
  intro entry member
  rcases foundEntries_cases searched with ⟨-, rfl⟩ | ⟨paths, -, -, rfl⟩
  · cases member
  · obtain ⟨-, -, named⟩ := mem_foundPairs.mp (Keyed.mem_ofList member)
    cases read : readDocument files entry.2 with
    | ok document => exact located_of_readDocument read
    | error fault => simp [idOfFile?, read] at named

theorem RebuildStep.settled {index : String} {state after : StoreState}
    {result : Except StoreError Nat} (step : RebuildStep index state result after)
    (settled : Settled state) : Settled after := by
  cases step with
  | unknown _ => exact settled
  | unwalkable _ _ => exact settled
  | rebuilt known searched recorded =>
    refine Settled.withEntries (settled.keep recorded.grown.keeps) known fun entry member => ?_
    obtain ⟨place, located⟩ := located_of_found searched entry member
    exact ⟨place, recorded.grown.keeps.locate located⟩

theorem Reached.settled {root : String} {names : List String} {start : FileTree}
    {state : StoreState} (reached : Reached root names start state) : Settled state := by
  induction reached with
  | opened free _ fresh =>
    refine ⟨free, fun {index entries} known entry member => ?_⟩
    have empty : entries = [] := fresh _ (Keyed.mem_of_lookup (entries_eq_ok_iff.mp known))
    rw [empty] at member
    cases member
  | put _ index id document overwrite settled =>
    exact (put_step index id document overwrite _ settled.free).settled settled
  | remove _ index id settled => exact (remove_step index id _ settled.free).settled settled
  | rebuild _ index settled => exact (rebuild_step index _ settled.free).settled settled

/-! ## The other documents of an index -/

/-- The entry of a document names a path. -/
def Names (store : Store) (index id path : String) : Prop :=
  ∃ entries, store.entries index = .ok entries ∧ entries.lookup id = some path

section Put

variable {index id other : String} {document : Json} {overwrite : Bool}
  {state after : StoreState} {result : Except StoreError Bool}

/-- Putting a document writes no file but its own and the index file. -/
theorem PutStep.grown (step : PutStep index id document overwrite state result after) :
    Extends (fun place =>
        after.files.locate true (documentPath state.store.root index id) = .ok place ∨
        after.files.locate true (indexFile state.store.root index) = .ok place)
      state.files after.files := by
  cases step with
  | invalid _ => exact .refl _ _
  | unknown _ _ => exact .refl _ _
  | kept _ _ _ _ => exact .refl _ _
  | unwritten _ _ _ stuck => exact stuck.grown.mono fun _ => .inl
  | stored _ _ _ wrote recorded =>
    refine Extends.trans (wrote.grown.mono fun _ located => ?_) (recorded.grown.mono fun _ => .inr)
    exact .inl (recorded.grown.keeps.locate located)

/-- Putting a document changes no other entry of its index. -/
theorem PutStep.lookup_other (step : PutStep index id document overwrite state result after)
    (different : other ≠ id) :
    (after.store.entries index).map (·.lookup other) =
      (state.store.entries index).map (·.lookup other) := by
  cases step with
  | stored _ known _ _ _ =>
    simp only [entries_withEntries known, known, Except.map,
      Keyed.lookup_insert_of_ne _ _ different]
  | _ => rfl

/-- A document that was put is in its file, unless that is the index file. -/
theorem PutStep.readDocument_own (step : PutStep index id document overwrite state result after)
    (succeeded : result = .ok true) {path : String}
    (shared : after.files.SameFile path (documentPath state.store.root index id))
    (apart : ¬ after.files.SameFile (documentPath state.store.root index id)
      (indexFile state.store.root index))
    (readable : Json.parse? (document.render true) = some document) :
    readDocument after.files path = .ok document := by
  cases step with
  | stored _ _ _ wrote recorded =>
    obtain ⟨place, located, held⟩ := wrote.placed rfl
    have located := recorded.grown.keeps.locate located
    obtain ⟨place', same, own⟩ := shared
    cases own.symm.trans located
    rw [readDocument_of_located same]
    rcases recorded.grown.entry place with kept | ⟨absent, _⟩ | ⟨listed, _⟩
    · simp only [kept, held, readable]
    · rw [held] at absent
      cases absent
    · exact absurd ⟨place, located, listed⟩ apart
  | _ => simp at succeeded

/-- A document that was put has an entry, and the entries in memory are those in the index file. -/
theorem PutStep.entries_of_stored
    (step : PutStep index id document overwrite state result after) (succeeded : result = .ok true) :
    ∃ old place, state.store.entries index = .ok old ∧
      let entries := Keyed.insert id (documentPath state.store.root index id) old
      after.store.entries index = .ok entries ∧
        after.files.locate true (indexFile state.store.root index) = .ok place ∧
        after.files.entry? place = some (.file (.text (entriesText entries))) := by
  cases step with
  | @stored old _ _ saved _ known _ _ recorded =>
    have written : saved = .ok () := by
      cases saved with
      | error fault => cases succeeded
      | ok => rfl
    obtain ⟨place, located, held⟩ := recorded.placed written
    exact ⟨old, place, known, entries_withEntries known _, located, held⟩
  | _ => simp at succeeded

/-- The index file holds the entries that are in memory. -/
theorem PutStep.readDocument_listed
    (step : PutStep index id document overwrite state result after) (succeeded : result = .ok true)
    {path : String} (shared : after.files.SameFile path (indexFile state.store.root index))
    {entries : DocumentIndex} (known : after.store.entries index = .ok entries) {listing : Json}
    (readable : Json.parse? (entriesText entries) = some listing) :
    readDocument after.files path = .ok listing := by
  obtain ⟨old, place, -, stored, located, held⟩ := step.entries_of_stored succeeded
  cases stored.symm.trans known
  obtain ⟨place', same, listed⟩ := shared
  cases listed.symm.trans located
  rw [readDocument_of_located same]
  simp only [held, readable]

end Put

/-- Putting a document changes what is found under another id only if the entry of that id leads to
a file that was written. If it is the file of the document, then the document is found under both
ids; if it is the index file, then the listing of the index is found. -/
theorem get_put_other {root : String} {names : List String} {start : FileTree} {state : StoreState}
    (reached : Reached root names start state) (index id : String) (document : Json)
    (overwrite : Bool) {other : String} (different : other ≠ id) :
    let outcome := (put index id document overwrite).run state
    let own := documentPath state.store.root index id
    let listed := indexFile state.store.root index
    ((∀ path, state.store.Names index other path →
        ¬ outcome.2.files.SameFile path own ∧ ¬ outcome.2.files.SameFile path listed) →
      outcome.2.store.get outcome.2.files index other = state.store.get state.files index other) ∧
    (∀ path, state.store.Names index other path → outcome.2.files.SameFile path own →
      ¬ outcome.2.files.SameFile own listed → outcome.1 = .ok true →
      Json.parse? (document.render true) = some document →
      outcome.2.store.get outcome.2.files index other = .ok (some document)) ∧
    (∀ path entries listing, state.store.Names index other path →
      outcome.2.files.SameFile path listed → outcome.1 = .ok true →
      outcome.2.store.entries index = .ok entries →
      Json.parse? (entriesText entries) = some listing →
      outcome.2.store.get outcome.2.files index other = .ok (some listing)) := by
  intro outcome own listed
  have settled := reached.settled
  have step := put_step index id document overwrite state settled.free
  have lookup := step.lookup_other different
  refine ⟨?_, ?_, ?_⟩
  · intro apart
    rw [get_eq, get_eq, lookup]
    cases known : state.store.entries index with
    | error fault => rfl
    | ok entries =>
      cases found : entries.lookup other with
      | none => simp only [Except.map, found]
      | some path =>
        obtain ⟨place, located⟩ :=
          settled.located known _ (Keyed.mem_of_lookup found)
        obtain ⟨notOwn, notListed⟩ := apart path ⟨entries, known, found⟩
        -- The path still leads to its place, which is not one of those that were written.
        have located' := step.grown.keeps.locate located
        have untouched := readDocument_of_extends step.grown located fun
          | .inl wrote => notOwn ⟨place, located', wrote⟩
          | .inr wrote => notListed ⟨place, located', wrote⟩
        simp only [Except.map, found, untouched, outcome]
  · rintro path ⟨entries, known, found⟩ shared apart succeeded readable
    rw [get_eq, lookup]
    simp only [known, Except.map, found,
      step.readDocument_own succeeded shared apart readable, outcome]
  · rintro path entries listing ⟨old, known, found⟩ shared succeeded recorded readable
    rw [get_eq, lookup]
    simp only [known, Except.map, found,
      step.readDocument_listed succeeded shared recorded readable, outcome]

/-! ## A document that is lost -/

theorem held_filesX :
    filesX.entry? ["a", "x.json"] = some (.file (.text (documentY.render true))) := rfl

theorem walk_filesX : filesX.walk (folder "." "a") = .ok [documentPath "." "a" "x"] := by
  have located := layout_filesX.locate_outer named_a.followed
    (FileTree.usable_outer named_a.toPlainName (by decide) usable_x) true
  have children : filesX.children ["a"] =
      [("x.json", .file (.text (documentY.render true)))] := by
    have found : filesX.entries = [(["indexes", "a.json"],
        .file (.text (entriesText [("x", documentPath "." "a" "x")]))), (["indexes"], .folder),
        (["a", "x.json"], .file (.text (documentY.render true))), (["a"], .folder)] := rfl
    rw [FileTree.children, found]
    exact List.mergeSort_singleton _
  simp only [FileTree.walk, folder, located, Bind.bind, Except.bind, List.nil_append]
  rw [FileTree.walkFolder, children]
  simp only [FileTree.walkChildren, FileTree.targetOf, Bind.bind, Except.bind, List.cons_append,
    List.nil_append, held_filesX]
  rfl

theorem readDocument_filesX :
    readDocument filesX (documentPath "." "a" "x") = .ok documentY := by
  have inner : filesX.locate true (documentPath "." "a" "x") = .ok ["a", "x.json"] :=
    layout_filesX.locate_inner named_a.followed followed_x usable_x rfl true
  rw [readDocument_of_located inner, held_filesX]
  simp only [readable_documentY]

theorem foundEntries_filesX :
    foundEntries filesX (folder "." "a") = .ok [("y", documentPath "." "a" "x")] := by
  have located := layout_filesX.locate_outer named_a.followed
    (FileTree.usable_outer named_a.toPlainName (by decide) usable_x) true
  have isFolder : filesX.isFolder (folder "." "a") = true := by
    rw [folder, FileTree.isFolder_of_located located]
    rfl
  have extension : Path.extension? (documentPath "." "a" "x") = some "json" := by decide
  have named : idOfFile? filesX (documentPath "." "a" "x") = some "y" := by
    simp only [idOfFile?, readDocument_filesX]
    rfl
  simp only [foundEntries, isFolder, if_true, walk_filesX, List.filter_cons, List.filter_nil,
    extension, beq_self_eq_true, List.filterMap_cons, List.filterMap_nil, named, Option.map_some]
  rfl

/-- The working folder after the index was rebuilt: the document has the id that it gives itself,
and lies where it was put under another. -/
def rebuiltX : StoreState :=
  ⟨⟨".", [("a", [("y", documentPath "." "a" "x")])]⟩,
    filesX.putFile [] "indexes" "a.json" (.text (entriesText [("y", documentPath "." "a" "x")]))⟩

theorem layout_rebuiltX : Layout rebuiltX.files "." [] :=
  layout_filesX.putFile ..

theorem reached_rebuiltX : Reached "." ["a"] (.empty []) rebuiltX := by
  let start : StoreState := ⟨⟨".", [("a", [])]⟩, .empty []⟩
  let stored : StoreState := ⟨⟨".", [("a", [("x", documentPath "." "a" "x")])]⟩, filesX⟩
  have loaded : load (.empty []) "." ["a"] = .ok start.store :=
    load_working (by simpa using And.intro named_a.noSlash listable_a)
  have opened : Reached "." ["a"] (.empty []) start :=
    .opened (fun place target => by simp [FileTree.empty, FileTree.entry?]) loaded (by simp)
  have put : (put "a" "x" documentY false).run start = (.ok true, stored) := put_x rfl rfl
  have saved := @saveEntries_run_layout stored "." [] layout_filesX rfl "a" named_a.noSlash
    named_a.followed_file listable_a [("y", documentPath "." "a" "x")]
  have rebuilt : (rebuild "a").run stored = (.ok 1, rebuiltX) := by
    rw [rebuild, run_bind, run_entries]
    simp only [stored, Store.entries, List.lookup_cons_self, run_bind, run_state, run_lift,
      foundEntries_filesX] at saved ⊢
    rw [saved]
    rfl
  have reached := (opened.put "a" "x" documentY false).rebuild "a"
  rw [put, rebuilt] at reached
  exact reached

/-- The state after an empty document was put into the rebuilt index. -/
def refilledX (id : String) : StoreState :=
  let entries := Keyed.insert id (documentPath "." "a" id) [("y", documentPath "." "a" "x")]
  ⟨rebuiltX.store.withEntries "a" entries,
    storedFiles rebuiltX.files [] "a" id (.object []) entries⟩

theorem put_rebuiltX {id : String} (valid : isValidId id = true) (fresh : id ≠ "y")
    (usable : UsablePath (documentPath "." "a" id)) (followed : Followed (fileName id)) :
    (put "a" id (.object []) false).run rebuiltX = (.ok true, refilledX id) := by
  have known : rebuiltX.store.entries "a" = .ok [("y", documentPath "." "a" "x")] := rfl
  exact put_of_usable layout_rebuiltX rfl named_a valid known (by simp [fresh]) usable followed
    listable_a

theorem locate_refilledX (id : String) {key : String}
    (usable : UsablePath (documentPath "." "a" key)) (followed : Followed (fileName key)) :
    (refilledX id).files.locate true (documentPath "." "a" key) = .ok ["a", fileName key] :=
  (layout_storedFiles layout_rebuiltX ..).locate_inner named_a.followed followed usable
    (folder_storedFiles layout_rebuiltX ..) true

theorem locate_listed_refilledX (id : String) :
    (refilledX id).files.locate true (indexFile "." "a") = .ok ["indexes", "a.json"] :=
  (layout_storedFiles layout_rebuiltX ..).locate_inner followed_indexes named_a.followed_file
    listable_a (listFolder_storedFiles layout_rebuiltX ..) true

theorem names_rebuiltX {path : String} (named : rebuiltX.store.Names "a" "y" path) :
    path = documentPath "." "a" "x" := by
  obtain ⟨entries, known, found⟩ := named
  cases known
  simpa using found.symm

/-- In a rebuilt index a document may lie where another id is put: it is lost when a document is put
under that id, though nothing is to be overwritten. -/
theorem get_put_shared :
    Reached "." ["a"] (.empty []) rebuiltX ∧ "y" ≠ "x" ∧
      rebuiltX.store.get rebuiltX.files "a" "y" = .ok (some documentY) ∧
      ∃ after, (put "a" "x" (.object []) false).run rebuiltX = (.ok true, after) ∧
        after.store.get after.files "a" "y" = .ok (some (.object [])) := by
  have ran := put_rebuiltX (by decide) (by decide) usable_x followed_x
  refine ⟨reached_rebuiltX, by decide, ?_, _, ran, ?_⟩
  · have located : rebuiltX.files.locate true (documentPath "." "a" "x") = .ok ["a", "x.json"] :=
      layout_rebuiltX.locate_inner named_a.followed followed_x usable_x rfl true
    have held : rebuiltX.files.entry? ["a", "x.json"] =
        some (.file (.text (documentY.render true))) := rfl
    have known : (rebuiltX.store.entries "a").map (·.lookup "y") =
        .ok (some (documentPath "." "a" "x")) := rfl
    rw [get_eq, known]
    simp only [readDocument_of_located located, held, readable_documentY, Except.map]
  · have held : (refilledX "x").files.entry? ["a", fileName "x"] = _ :=
      held_storedFiles layout_rebuiltX named_a.apart ..
    have known : ((refilledX "x").store.entries "a").map (·.lookup "y") =
        .ok (some (documentPath "." "a" "x")) := rfl
    rw [get_eq, known]
    simp only [readDocument_of_located (locate_refilledX "x" usable_x followed_x), held,
      readable_empty, Except.map]

/-- A document that is put under an id of its own leaves the other alone; put under the id that the
file has, it is found under both. -/
theorem get_put_other_rebuilt :
    Reached "." ["a"] (.empty []) rebuiltX ∧ "y" ≠ "z" ∧ "y" ≠ "x" ∧
      (refilledX "z").store.get (refilledX "z").files "a" "y" =
        rebuiltX.store.get rebuiltX.files "a" "y" ∧
      (refilledX "x").store.get (refilledX "x").files "a" "y" = .ok (some (.object [])) := by
  have usable_z : UsablePath (documentPath "." "a" "z") := ⟨by decide, by decide, by decide⟩
  have followed_z : Followed (fileName "z") := ⟨plain_fileName (by decide), by decide⟩
  have listed (id : String) := locate_listed_refilledX id
  have atX (id : String) := locate_refilledX id usable_x followed_x
  have atZ := locate_refilledX "z" usable_z followed_z
  have aside := (get_put_other reached_rebuiltX "a" "z" (.object []) false
    (by decide : "y" ≠ "z")).1
  have lost := (get_put_other reached_rebuiltX "a" "x" (.object []) false
    (by decide : "y" ≠ "x")).2.1 (documentPath "." "a" "x")
  rw [put_rebuiltX (by decide) (by decide) usable_z followed_z] at aside
  rw [put_rebuiltX (by decide) (by decide) usable_x followed_x] at lost
  refine ⟨reached_rebuiltX, by decide, by decide, aside fun path named => ?_, lost ⟨_, rfl, rfl⟩
    ⟨_, atX "x", atX "x"⟩ ?_ rfl readable_empty⟩
  · obtain rfl := names_rebuiltX named
    constructor
    · rintro ⟨place, first, second⟩
      cases (atX "z").symm.trans first
      exact absurd (Except.ok.inj (atZ.symm.trans second)) (by decide)
    · rintro ⟨place, first, second⟩
      cases (atX "z").symm.trans first
      exact absurd (Except.ok.inj ((listed "z").symm.trans second)) (by decide)
  · rintro ⟨place, first, second⟩
    cases (atX "x").symm.trans first
    exact absurd (Except.ok.inj ((listed "x").symm.trans second)) (by decide)

end Store

end AnswerGraph
