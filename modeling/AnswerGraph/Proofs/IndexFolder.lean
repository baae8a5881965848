import AnswerGraph.Proofs.FolderSearch
import AnswerGraph.Proofs.StoreFailure

/-!
The folders of indexes under any changes, whether these succeed or fail, and whenever the store is
opened again. A change of an index touches files in the folder of the index and its index file. So
every entry goes on to lead to the file of some id in the folder of its index, and that folder holds
nothing but what was put there.
-/

namespace AnswerGraph

open FileTree (Layout UsablePath Followed Keeps Unshadowed innerPath)

namespace FileTree

/-! ## Changes of some files in folders -/

/-- The second tree is laid out like the first one, and of the files in folders only those that were
touched have changed. -/
structure Confined (touched : String → String → Prop) (root : String) (place : Location)
    (before after : FileTree) : Prop where
  layout : Layout after root place
  unshadowed : after.Unshadowed place
  keeps : Keeps before after
  elsewhere : ∀ {name file}, ¬ touched name file →
    after.entry? (place ++ [name, file]) = before.entry? (place ++ [name, file])

section Confined

variable {touched more : String → String → Prop} {root name file : String} {place : Location}
  {tree before middle after : FileTree}

theorem Confined.refl (layout : Layout tree root place) (unshadowed : tree.Unshadowed place) :
    Confined touched root place tree tree :=
  ⟨layout, unshadowed, .refl tree, fun _ => rfl⟩

theorem Confined.trans (early : Confined touched root place before middle)
    (late : Confined touched root place middle after) :
    Confined touched root place before after :=
  ⟨late.layout, late.unshadowed, early.keeps.trans late.keeps, fun untouched =>
    (late.elsewhere untouched).trans (early.elsewhere untouched)⟩

theorem Confined.mono (confined : Confined touched root place before after)
    (weaker : ∀ {name file}, touched name file → more name file) :
    Confined more root place before after :=
  ⟨confined.layout, confined.unshadowed, confined.keeps, fun untouched =>
    confined.elsewhere fun wrote => untouched (weaker wrote)⟩

theorem confined_withFolder (layout : Layout tree root place) (unshadowed : tree.Unshadowed place)
    (name : String) : Confined touched root place tree (tree.withFolder (place ++ [name])) := by
  refine ⟨layout.withFolder name, unshadowed.withFolder (by simp), keeps_withFolder layout name, ?_⟩
  intro other file _
  rw [ entry?_withFolder layout, if_neg (by simp)]

theorem confined_putFile (layout : Layout tree root place) (unshadowed : tree.Unshadowed place)
    (wrote : touched name file) (contents : Contents) :
    Confined touched root place tree (tree.putFile place name file contents) := by
  refine ⟨layout.putFile name file contents, unshadowed.putFile place name file contents,
    (extends_putFile layout name file contents).keeps, ?_⟩
  intro other inner untouched
  rw [ entry?_putFile layout, if_neg, if_neg (by simp)]
  intro same
  obtain ⟨rfl, rfl⟩ := Store.append_pair_eq_iff.mp same
  exact untouched wrote

theorem confined_erase (layout : Layout tree root place) (unshadowed : tree.Unshadowed place)
    (wrote : touched name file) :
    Confined touched root place tree (tree.erase (place ++ [name, file])) := by
  refine ⟨layout.erase name file, unshadowed.erase (by simp),
    keeps_erase (layout.inner name file) (by simp), ?_⟩
  intro other inner untouched
  rw [ entry?_erase _ (by simp), if_neg]
  intro same
  obtain ⟨rfl, rfl⟩ := Store.append_pair_eq_iff.mp same
  exact untouched wrote

theorem confined_makeFolders (layout : Layout tree root place)
    (unshadowed : tree.Unshadowed place) (plain : PlainName name) :
    Confined touched root place tree (tree.makeFolders (Path.join root name)).1 := by
  rcases layout.makeFolders_files plain with same | made
  · rw [same]
    exact .refl layout unshadowed
  · rw [made]
    exact confined_withFolder layout unshadowed name

end Confined

end FileTree

open FileTree (Confined)

namespace StoreAction

section Layout

variable {state : StoreState} {root name file index : String} {place : Location}

/-- Whether a file can be written or not, no other file in a folder changes. -/
theorem placeFile_confined (layout : Layout state.files root place)
    (unshadowed : state.files.Unshadowed place) (plain : PlainName name)
    (plainFile : PlainName file)
    (text : String) :
    ∃ result files,
      (placeFile (some (Path.join root name)) (innerPath root name file) text).run state =
        (result, { state with files }) ∧
      Confined (fun other inner => other = name ∧ inner = file) root place state.files files := by
  rcases placeFile_cases layout plain plainFile text with ⟨broken, after, failed⟩ | ⟨-, -, placed⟩
  · obtain ⟨result, files, ran, made⟩ := placeFile_run_files (some (Path.join root name))
      (innerPath root name file) text state
    refine ⟨result, files, ran, ?_⟩
    rw [made (.fault broken) (congrArg Prod.fst (ran.symm.trans failed))]
    exact FileTree.confined_makeFolders layout unshadowed plain
  · exact ⟨_, _, placed, FileTree.confined_putFile layout unshadowed ⟨rfl, rfl⟩ _⟩

/-- Keeping entries touches the index file only. -/
theorem saveEntries_confined (layout : Layout state.files root place)
    (unshadowed : state.files.Unshadowed place) (rooted : state.store.root = root)
    (noSlash : '/' ∉ index.toList) (entries : DocumentIndex) :
    ∃ saved files, (saveEntries index entries).run state =
        (saved, ⟨state.store.withEntries index entries, files⟩) ∧
      Confined (fun other inner => other = "indexes" ∧ inner = Store.fileName index) root place
        state.files files := by
  let listed : StoreState := { state with store := state.store.withEntries index entries }
  obtain ⟨saved, files, ran, confined⟩ :=
    @placeFile_confined listed root "indexes" (Store.fileName index) place layout unshadowed
      Store.plain_indexes (Store.plain_fileName noSlash) (entriesText entries)
  refine ⟨saved, files, ?_, confined⟩
  rw [saveEntries_run, rooted, Store.parent?_indexFile root noSlash, Store.indexFile_eq]
  exact ran

end Layout

end StoreAction

namespace Store

open StoreAction

/-! ## What an index has in its folder -/

/-- The file of an id in the folder of an index can be reached. -/
structure Addressed (files : FileTree) (root : String) (place : Location) (index id : String) :
    Prop where
  valid : isValidId id = true
  usable : UsablePath (documentPath root index id)
  followedFolder : Followed index
  followed : Followed (fileName id)
  folder : files.entry? (place ++ [index]) = some .folder

/-- No document that is put contradicts its id. -/
def Faithful (puts : String → Json → Prop) : Prop :=
  ∀ id document, puts id document → Spells id document

/-- The entries of an index lead to files in its folder, and in the folder there is nothing but
files of documents that were put. If no document contradicts its id, then every entry leads to the
file of its own id. -/
structure Housed (puts : String → Json → Prop) (files : FileTree) (root : String)
    (place : Location) (index : String) (entries : DocumentIndex) : Prop where
  sorted : Keyed.Sorted entries
  addressed : ∀ entry ∈ entries, ∃ id, entry.2 = documentPath root index id ∧
    Addressed files root place index id ∧ (Faithful puts → id = entry.1)
  filed : ∀ {file}, files.entry? (place ++ [index, file]) ≠ none → ∃ id text,
    file = fileName id ∧ Addressed files root place index id ∧
      files.entry? (place ++ [index, file]) = some (.file (.text text)) ∧
      ∀ document, Json.parse? text = some document → puts id document

/-- The index file holds the entries, or is missing and there are none. -/
def Recorded (files : FileTree) (place : Location) (index : String) (entries : DocumentIndex) :
    Prop :=
  entries = [] ∧ files.entry? (place ++ ["indexes", fileName index]) = none ∨
    files.entry? (place ++ ["indexes", fileName index]) =
      some (.file (.text (entriesText entries)))

section Housed

variable {puts : String → Json → Prop} {files before after : FileTree} {root index id : String}
  {place : Location} {entries : DocumentIndex}

theorem Addressed.keep (addressed : Addressed before root place index id)
    (keeps : Keeps before after) : Addressed after root place index id :=
  ⟨addressed.valid, addressed.usable, addressed.followedFolder, addressed.followed,
    keeps.folder addressed.folder⟩

theorem Addressed.located (addressed : Addressed files root place index id)
    (layout : Layout files root place) (through : Bool) :
    files.locate through (documentPath root index id) = .ok (place ++ [index, fileName id]) :=
  layout.locate_inner addressed.followedFolder addressed.followed addressed.usable addressed.folder
    through

theorem Housed.keep (housed : Housed puts before root place index entries)
    (keeps : Keeps before after)
    (own : ∀ file, after.entry? (place ++ [index, file]) = before.entry? (place ++ [index, file])) :
    Housed puts after root place index entries where
  sorted := housed.sorted
  addressed entry member := by
    obtain ⟨id, path, addressed, faithful⟩ := housed.addressed entry member
    exact ⟨id, path, addressed.keep keeps, faithful⟩
  filed {file} present := by
    rw [own] at present ⊢
    obtain ⟨id, text, named, addressed, held⟩ := housed.filed present
    exact ⟨id, text, named, addressed.keep keeps, held⟩

/-- A document is put into its file, and its entry among the others. -/
theorem Housed.put (housed : Housed puts files root place index entries)
    (layout : Layout files root place) (valid : isValidId id = true)
    (usable : UsablePath (documentPath root index id)) (followedFolder : Followed index)
    (followed : Followed (fileName id)) {text : String}
    (permitted : ∀ document, Json.parse? text = some document → puts id document) :
    Housed puts (files.putFile place index (fileName id) (.text text)) root place index
      (Keyed.insert id (documentPath root index id) entries) := by
  have entry := FileTree.entry?_putFile layout index (fileName id) (.text text)
  have keeps := (FileTree.extends_putFile layout index (fileName id) (.text text)).keeps
  have own : Addressed (files.putFile place index (fileName id) (.text text)) root place index id :=
    ⟨valid, usable, followedFolder, followed, by rw [ entry, if_neg (by simp), if_pos rfl]⟩
  refine ⟨Keyed.sorted_insert housed.sorted, ?_, ?_⟩
  · intro given member
    rcases Keyed.mem_insert member with rfl | old
    · exact ⟨id, rfl, own, fun _ => rfl⟩
    · obtain ⟨key, path, addressed, faithful⟩ := housed.addressed given old
      exact ⟨key, path, addressed.keep keeps, faithful⟩
  · intro file present
    by_cases same : file = fileName id
    · subst file
      exact ⟨id, text, rfl, own, by rw [ entry, if_pos rfl], permitted⟩
    · rw [ entry, if_neg (by simp [same]), if_neg (by simp)] at present ⊢
      obtain ⟨key, held, named, addressed, found⟩ := housed.filed present
      exact ⟨key, held, named, addressed.keep keeps, found⟩

/-- A file of an index is deleted, or none, and an entry goes. -/
theorem Housed.remove (housed : Housed puts before root place index entries)
    (keeps : Keeps before after) (id : String)
    (own : ∀ {file}, after.entry? (place ++ [index, file]) ≠ none →
      after.entry? (place ++ [index, file]) = before.entry? (place ++ [index, file])) :
    Housed puts after root place index (Keyed.erase id entries) := by
  refine ⟨Keyed.sorted_erase housed.sorted, ?_, ?_⟩
  · intro given member
    obtain ⟨key, path, addressed, faithful⟩ := housed.addressed given (Keyed.mem_erase.mp member).1
    exact ⟨key, path, addressed.keep keeps, faithful⟩
  · intro file present
    have same := own present
    rw [same] at present ⊢
    obtain ⟨key, text, named, addressed, held⟩ := housed.filed present
    exact ⟨key, text, named, addressed.keep keeps, held⟩

/-! ## Searching the folder -/

/-- The search of a folder comes upon a document that has an id: its own, or the name of its file if
it does not give itself one. -/
def Shows (files : FileTree) (folder id : String) : Prop :=
  files.isFolder folder = true ∧ ∃ paths, files.walk folder = .ok paths ∧
    ∃ path ∈ paths, Path.extension? path = some "json" ∧ idOfFile? files path = some id

/-- The ids that are found are those of the documents that the search comes upon. -/
theorem mem_ids_foundEntries {folder : String} {found : DocumentIndex}
    (searched : foundEntries files folder = .ok found) :
    id ∈ found.map (·.1) ↔ Shows files folder id := by
  rcases foundEntries_cases searched with ⟨noFolder, rfl⟩ | ⟨paths, isFolder, walked, rfl⟩
  · constructor
    · intro member
      cases member
    · intro shows
      exact absurd (noFolder.symm.trans shows.1) Bool.false_ne_true
  · rw [Keyed.mem_keys_ofList, List.mem_map]
    constructor
    · rintro ⟨entry, member, rfl⟩
      obtain ⟨listed, extension, named⟩ := mem_foundPairs.mp member
      exact ⟨isFolder, paths, walked, entry.2, listed, extension, named⟩
    · rintro ⟨-, others, again, path, listed, extension, named⟩
      obtain rfl := Except.ok.inj (walked.symm.trans again)
      exact ⟨(id, path), mem_foundPairs.mpr ⟨listed, extension, named⟩, rfl⟩

/-- The folder of an index is walked by listing its files. -/
theorem walk_folder (layout : Layout files root place) (unshadowed : files.Unshadowed place)
    (plain : PlainName index) (isFolder : files.isFolder (folder root index) = true) :
    ∃ paths, files.walk (folder root index) = .ok paths ∧ ∀ path ∈ paths, ∃ file,
      files.entry? (place ++ [index, file]) ≠ none ∧ path = innerPath root index file := by
  have located : files.locate true (folder root index) = .ok (place ++ [index]) := by
    rw [folder] at isFolder ⊢
    by_cases usable : UsablePath (Path.join root index)
    · by_cases short : index.utf8ByteSize ≤ FileTree.maxName
      · exact layout.locate_outer ⟨plain, short⟩ usable true
      · rw [FileTree.isFolder, layout.locate_outer_long plain (Nat.not_le.mp short) usable]
          at isFolder
        cases isFolder
    · obtain ⟨fault, -, failed⟩ :=
        FileTree.locate_of_unusable (Path.join_ne_empty plain root) usable
      rw [FileTree.isFolder, failed] at isFolder
      cases isFolder
  refine ⟨_, layout.walk_outer unshadowed located, ?_⟩
  intro path listed
  obtain ⟨child, member, rfl⟩ := List.mem_map.mp listed
  have listed : (place ++ index :: [child.1], child.2) ∈ files.entries := by
    simpa using FileTree.mem_children.mp member
  refine ⟨child.1, ?_, rfl⟩
  rw [unshadowed index [child.1] child.2 listed]
  exact Option.some_ne_none _

theorem Addressed.walk_mem (addressed : Addressed files root place index id)
    (layout : Layout files root place) (unshadowed : files.Unshadowed place) {entry : Entry}
    (held : files.entry? (place ++ [index, fileName id]) = some entry) :
    files.isFolder (Store.folder root index) = true ∧ ∃ paths,
      files.walk (Store.folder root index) = .ok paths ∧ documentPath root index id ∈ paths := by
  have usable := FileTree.usable_outer addressed.followedFolder.toPlainName
    addressed.followed.noSlash addressed.usable
  have located := layout.locate_outer addressed.followedFolder usable true
  refine ⟨?_, _, layout.walk_outer unshadowed located, ?_⟩
  · rw [Store.folder, FileTree.isFolder_of_located located, addressed.folder]
    rfl
  · refine List.mem_map.mpr ⟨(fileName id, entry), ?_, rfl⟩
    rw [FileTree.mem_children]
    simpa using FileTree.mem_entries_of_found (by simp) held

/-- The search of the folder comes upon the documents in its files. -/
theorem Housed.shows_iff (housed : Housed puts files root place index entries)
    (layout : Layout files root place) (unshadowed : files.Unshadowed place)
    (plain : PlainName index) :
    Shows files (folder root index) id ↔ ∃ file, files.entry? (place ++ [index, file]) ≠ none ∧
      idOfFile? files (innerPath root index file) = some id := by
  constructor
  · rintro ⟨isFolder, paths, walked, path, listed, -, named⟩
    obtain ⟨others, again, each⟩ := walk_folder layout unshadowed plain isFolder
    obtain rfl := Except.ok.inj (walked.symm.trans again)
    obtain ⟨file, present, rfl⟩ := each path listed
    exact ⟨file, present, named⟩
  · rintro ⟨file, present, named⟩
    obtain ⟨key, text, rfl, addressed, held, -⟩ := housed.filed present
    obtain ⟨isFolder, paths, walked, listed⟩ := addressed.walk_mem layout unshadowed held
    exact ⟨isFolder, paths, walked, _, listed,
      extension?_documentPath addressed.valid root index, named⟩

/-- The id of a file in the folder is the one that its document gives itself, or else the one under
which the document was put. -/
theorem Housed.exists_of_idOfFile? (housed : Housed puts files root place index entries)
    (layout : Layout files root place) {file : String}
    (present : files.entry? (place ++ [index, file]) ≠ none)
    (named : idOfFile? files (innerPath root index file) = some id) :
    ∃ key document, file = fileName key ∧ isValidId key = true ∧ puts key document ∧
      (givenId? document = some id ∨ id = key) := by
  obtain ⟨key, text, rfl, addressed, held, put⟩ := housed.filed present
  rw [← documentPath_eq, idOfFile?, readDocument_of_located (addressed.located layout true),
    held] at named
  cases read : Json.parse? text with
  | none => simp [read] at named
  | some document =>
    refine ⟨key, document, rfl, addressed.valid, put document read, ?_⟩
    simp only [read] at named
    cases given : givenId? document with
    | some own =>
      simp only [given] at named
      exact .inl named
    | none =>
      simp only [given, fileStem?_documentPath addressed.valid] at named
      exact .inr (Option.some.inj named).symm

/-- A document that does not contradict its id has the id of its file. -/
theorem Housed.eq_of_idOfFile? (housed : Housed puts files root place index entries)
    (layout : Layout files root place) (faithful : Faithful puts) {file : String}
    (present : files.entry? (place ++ [index, file]) ≠ none)
    (named : idOfFile? files (innerPath root index file) = some id) : file = fileName id := by
  obtain ⟨key, document, rfl, -, put, given | rfl⟩ :=
    housed.exists_of_idOfFile? layout present named
  · rw [faithful key document put id given]
  · rfl

/-- The search of a folder succeeds, and finds entries like those that were put. -/
theorem Housed.found (housed : Housed puts files root place index entries)
    (layout : Layout files root place) (unshadowed : files.Unshadowed place)
    (plain : PlainName index) :
    ∃ found, foundEntries files (folder root index) = .ok found ∧
      Housed puts files root place index found := by
  by_cases isFolder : files.isFolder (folder root index) = true
  · obtain ⟨paths, walked, each⟩ := walk_folder layout unshadowed plain isFolder
    refine ⟨_, foundEntries_of_walk isFolder walked, Keyed.sorted_ofList _, ?_, housed.filed⟩
    intro entry member
    obtain ⟨listed, -, named⟩ := mem_foundPairs.mp (Keyed.mem_ofList member)
    obtain ⟨file, present, path⟩ := each entry.2 listed
    obtain ⟨key, text, rfl, addressed, -⟩ := housed.filed present
    refine ⟨key, path, addressed, ?_⟩
    intro faithful
    rw [path] at named
    exact fileName_injective (housed.eq_of_idOfFile? layout faithful present named)
  · refine ⟨[], by rw [foundEntries, if_neg isFolder], .nil, ?_, housed.filed⟩
    intro entry member
    cases member

end Housed

end Store

end AnswerGraph
