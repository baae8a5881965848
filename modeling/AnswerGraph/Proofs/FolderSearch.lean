import AnswerGraph.Proofs.StoreMap

/-!
Searching the folder of an index. A rebuild takes the entries of an index from a walk through its
folder, and the id of a document from the document or from the name of its file. If the folder holds
just the documents of the index, each in the file of its id, then exactly the entries of the index
are found.
-/

namespace AnswerGraph

/-! ## The name of a document's file -/

namespace Path

theorem names_join {name : String} (plain : PlainName name) (folder : String) :
    names (join folder name) = names folder ++ [name] := by
  have kept (path : String) : names path = (FileTree.steps path).filter (· != ".") := by
    simp only [names, FileTree.steps, List.filter_filter, Bool.and_comm]
  have last : [name].filter (· != ".") = [name] := by simp [plain.notDot]
  rw [kept, kept, steps_join plain, List.filter_append, last]

theorem fileName?_join {name : String} (plain : PlainName name) (folder : String) :
    fileName? (join folder name) = some name := by
  rw [fileName?, names_join plain, List.getLast?_concat]
  split
  · next same => exact absurd (Option.some.inj same) plain.notDots
  · rfl

/-- The extension of a file of JSON is known, and what stands before it is the name. -/
theorem splitExtension_fileName {name : String} (filled : name ≠ "") :
    splitExtension (Store.fileName name) = (name, some "json") := by
  have reversed : (Store.fileName name).toList.reverse =
      ['n', 'o', 's', 'j'] ++ '.' :: name.toList.reverse := by
    rw [Store.toList_fileName, List.reverse_append]
    rfl
  have after : (Store.fileName name).toList.reverse.takeWhile (· != '.') =
      ['n', 'o', 's', 'j'] := by
    rw [reversed]
    rfl
  have before : (Store.fileName name).toList.take
      ((Store.fileName name).toList.length - 4 - 1) = name.toList := by
    rw [Store.toList_fileName, List.length_append]
    exact List.take_left' (by simp)
  have letters : name.toList.isEmpty = false := by simpa using filled
  simp only [splitExtension, after, List.length_reverse, List.length_cons, List.length_nil, before,
    letters]
  simp

end Path

namespace Store

section Names

variable {id : String} (valid : isValidId id = true) (root index : String)

include valid

theorem ne_empty_of_valid : id ≠ "" := by
  rintro rfl
  exact absurd valid (by decide)

theorem fileName?_documentPath : Path.fileName? (documentPath root index id) = some (fileName id) :=
  Path.fileName?_join (plain_fileName (noSlash_of_valid valid)) _

theorem extension?_documentPath : Path.extension? (documentPath root index id) = some "json" := by
  rw [Path.extension?, fileName?_documentPath valid, Option.bind_some,
    Path.splitExtension_fileName (ne_empty_of_valid valid)]

theorem fileStem?_documentPath : Path.fileStem? (documentPath root index id) = some id := by
  rw [Path.fileStem?, fileName?_documentPath valid, Option.map_some,
    Path.splitExtension_fileName (ne_empty_of_valid valid)]

end Names

end Store

/-! ## Walking a folder of files -/

namespace FileTree

/-- What is listed below a place is what is found there: no entry is hidden by another one. -/
def Unshadowed (tree : FileTree) (place : Location) : Prop :=
  ∀ name rest entry, (place ++ name :: rest, entry) ∈ tree.entries →
    tree.entry? (place ++ name :: rest) = some entry

section Unshadowed

variable {tree : FileTree} {place location : Location}

theorem Unshadowed.set (unshadowed : tree.Unshadowed place) (inner : location ≠ [])
    (entry : Entry) : (tree.set location entry).Unshadowed place := by
  intro name rest found member
  rw [ entry?_set tree inner]
  rcases List.mem_cons.mp member with new | old
  · obtain ⟨same, rfl⟩ := Prod.mk.inj new
    rw [if_pos same]
  · obtain ⟨old, elsewhere⟩ := List.mem_filter.mp old
    rw [if_neg (by simpa using elsewhere)]
    exact unshadowed name rest found old

theorem Unshadowed.erase (unshadowed : tree.Unshadowed place) (inner : location ≠ []) :
    (tree.erase location).Unshadowed place := by
  intro name rest found member
  obtain ⟨old, elsewhere⟩ := List.mem_filter.mp member
  rw [ entry?_erase tree inner, if_neg (by simpa using elsewhere)]
  exact unshadowed name rest found old

theorem Unshadowed.withFolder (unshadowed : tree.Unshadowed place) (inner : location ≠ []) :
    (tree.withFolder location).Unshadowed place := by
  rw [FileTree.withFolder]
  split
  · exact unshadowed.set inner _
  · exact unshadowed

theorem Unshadowed.putFile (unshadowed : tree.Unshadowed place) (above : Location)
    (name file : String) (contents : Contents) :
    (tree.putFile above name file contents).Unshadowed place :=
  (unshadowed.withFolder (by simp)).set (by simp) _

theorem mem_entries_of_found {entry : Entry} (inner : location ≠ [])
    (found : tree.entry? location = some entry) : (location, entry) ∈ tree.entries := by
  rw [ entry?, if_neg (by simpa using inner)] at found
  obtain ⟨front, back, split, _⟩ := List.lookup_eq_some_iff.mp found
  rw [split]
  exact List.mem_append_right front List.mem_cons_self

theorem mem_children {name : String} {entry : Entry} :
    (name, entry) ∈ tree.children location ↔ (location ++ [name], entry) ∈ tree.entries := by
  rw [children, List.mem_mergeSort, List.mem_filterMap]
  constructor
  · rintro ⟨⟨place, held⟩, member, named⟩
    simp only at named
    by_cases inside : place.dropLast = location
    · rw [if_pos inside] at named
      obtain ⟨last, found, same⟩ := Option.map_eq_some_iff.mp named
      obtain ⟨rfl, rfl⟩ := Prod.mk.inj same
      obtain ⟨front, rfl⟩ := List.getLast?_eq_some_iff.mp found
      rw [List.dropLast_concat] at inside
      exact inside ▸ member
    · rw [if_neg inside] at named
      cases named
  · intro member
    exact ⟨_, member, by simp⟩

/-- A folder that holds files only is walked without going deeper. -/
theorem walkChildren_of_files (fuel : Nat) (tree : FileTree) (above : List Location)
    (location : Location) (path : String) (children : List (String × Entry))
    (flat : ∀ child ∈ children, ∃ contents, child.2 = .file contents ∧
      tree.entry? (location ++ [child.1]) = some (.file contents)) :
    walkChildren fuel tree above location path children =
      .ok (children.map fun child => Path.join path child.1) := by
  induction children with
  | nil => simp [walkChildren]
  | cons child rest ih =>
    obtain ⟨name, entry⟩ := child
    obtain ⟨contents, rfl, held⟩ := flat _ List.mem_cons_self
    have more := ih fun other member => flat other (List.mem_cons_of_mem _ member)
    simp only [walkChildren, targetOf, Bind.bind, Except.bind, held, more, List.map_cons,
      List.cons_append, List.nil_append]

/-- Of a layout, a folder is walked by listing its files. -/
theorem Layout.walk_outer {root name path : String} (layout : Layout tree root place)
    (unshadowed : tree.Unshadowed place) (located : tree.locate true path = .ok (place ++ [name])) :
    tree.walk path =
      .ok ((tree.children (place ++ [name])).map fun child => Path.join path child.1) := by
  simp only [walk, located, Bind.bind, Except.bind]
  rw [walkFolder]
  refine walkChildren_of_files _ tree _ _ path _ fun child member => ?_
  obtain ⟨file, entry⟩ := child
  have listed : (place ++ name :: [file], entry) ∈ tree.entries := by
    simpa using mem_children.mp member
  have held := unshadowed name [file] entry listed
  rcases layout.inner name file with absent | ⟨contents, found⟩
  · cases absent.symm.trans held
  · obtain rfl := Option.some.inj (found.symm.trans held)
    exact ⟨contents, rfl, by simpa using held⟩

end Unshadowed

end FileTree

namespace Store

open FileTree (Layout UsablePath)

theorem EmptyFolder.unshadowed {files : FileTree} {root : String}
    {place : Location} (empty : EmptyFolder files root place) : files.Unshadowed place := by
  intro name rest entry member
  have bare := empty.bare name rest
  rw [FileTree.entry?, if_neg (by simp), List.lookup_eq_none_iff] at bare
  exact absurd rfl (bne_iff_ne.mp (bare _ member))

/-! ## The documents of an index -/

/-- A document gives itself the id, or none. -/
def Spells (id : String) (document : Json) : Prop :=
  ∀ given, givenId? document = some given → given = id

/-- The folder of an index holds its documents under ids that they do not contradict, and nothing
else. -/
structure Shelved (files : FileTree) (root : String) (place : Location) (index : String)
    (documents : String → Option Json) : Prop where
  filed : ∀ {id document}, documents id = some document →
    Filed files root place index id document
  named : ∀ {id document}, documents id = some document →
    isValidId id = true ∧ Spells id document
  owner : ∀ {file}, files.entry? (place ++ [index, file]) ≠ none →
    ∃ id document, documents id = some document ∧ file = fileName id

/-- Entries lead from the ids of documents to their files. -/
structure Lists (root index : String) (documents : String → Option Json)
    (entries : DocumentIndex) : Prop where
  sorted : Keyed.Sorted entries
  lookup : ∀ id, entries.lookup id = (documents id).map fun _ => documentPath root index id

section Shelved

variable {files : FileTree} {root index : String} {place : Location}
  {documents : String → Option Json} {entries : DocumentIndex}

theorem Lists.mem_iff (lists : Lists root index documents entries) {entry : String × String} :
    entry ∈ entries ↔
      ∃ document, documents entry.1 = some document ∧
        entry.2 = documentPath root index entry.1 := by
  constructor
  · intro member
    have found := (Keyed.lookup_of_mem lists.sorted member).symm.trans (lists.lookup entry.1)
    obtain ⟨document, present, path⟩ := Option.map_eq_some_iff.mp found.symm
    exact ⟨document, present, path.symm⟩
  · rintro ⟨document, present, path⟩
    have found := lists.lookup entry.1
    rw [present, Option.map_some, ← path] at found
    exact Keyed.mem_of_lookup found

theorem Lists.unique {others : DocumentIndex} (lists : Lists root index documents entries)
    (relists : Lists root index documents others) : entries = others :=
  Keyed.eq_of_mem_iff lists.sorted relists.sorted fun _ =>
    lists.mem_iff.trans relists.mem_iff.symm

theorem Lists.eq_nil (lists : Lists root index documents entries)
    (none : ∀ id document, documents id ≠ some document) : entries = [] := by
  refine List.eq_nil_iff_forall_not_mem.mpr fun entry member => ?_
  obtain ⟨document, present, _⟩ := lists.mem_iff.mp member
  exact none entry.1 document present

/-- The id of a document is found again, in the document or in the name of its file. -/
theorem Shelved.idOfFile?_eq (shelved : Shelved files root place index documents)
    (layout : Layout files root place) (named : IndexName index) {id : String} {document : Json}
    (present : documents id = some document) :
    idOfFile? files (documentPath root index id) = some id := by
  obtain ⟨valid, spells⟩ := shelved.named present
  rw [idOfFile?, (shelved.filed present).read layout named.followed]
  cases given : givenId? document with
  | some own => simp only [given, spells own given]
  | none => simp only [given, fileStem?_documentPath valid]

/-- In the folder of an index the documents are found, each in the file of its id. -/
theorem Shelved.mem_found (shelved : Shelved files root place index documents)
    (layout : Layout files root place) (unshadowed : files.Unshadowed place)
    (named : IndexName index) {entry : String × String} :
    entry ∈ foundPairs files ((files.children (place ++ [index])).map fun child =>
        Path.join (folder root index) child.1) ↔
      ∃ document, documents entry.1 = some document ∧
        entry.2 = documentPath root index entry.1 := by
  constructor
  · intro member
    obtain ⟨path, kept, paired⟩ := List.mem_filterMap.mp member
    obtain ⟨child, listed, rfl⟩ := List.mem_map.mp (List.mem_filter.mp kept).1
    have held : (place ++ index :: [child.1], child.2) ∈ files.entries := by
      simpa using FileTree.mem_children.mp listed
    have present : files.entry? (place ++ [index, child.1]) ≠ none := by
      rw [unshadowed index [child.1] child.2 held]
      exact Option.some_ne_none _
    obtain ⟨id, document, found, file⟩ := shelved.owner present
    have path : Path.join (folder root index) child.1 = documentPath root index id := by
      rw [file]
      rfl
    rw [path, shelved.idOfFile?_eq layout named found] at paired
    obtain rfl := Option.some.inj paired
    exact ⟨document, found, rfl⟩
  · rintro ⟨document, present, path⟩
    have held := (shelved.filed present).held
    have listed : (fileName entry.1, Entry.file (.text (document.render true))) ∈
        files.children (place ++ [index]) := by
      rw [FileTree.mem_children]
      simpa using FileTree.mem_entries_of_found (by simp) held
    refine List.mem_filterMap.mpr ⟨documentPath root index entry.1, ?_, ?_⟩
    · refine List.mem_filter.mpr ⟨List.mem_map.mpr ⟨_, listed, rfl⟩, ?_⟩
      rw [extension?_documentPath (shelved.named present).1]
      exact beq_self_eq_true _
    · rw [shelved.idOfFile?_eq layout named present, ← path]
      rfl

/-- The search of a folder finds the entries of its index. -/
theorem Shelved.foundEntries_eq (shelved : Shelved files root place index documents)
    (lists : Lists root index documents entries) (layout : Layout files root place)
    (unshadowed : files.Unshadowed place) (named : IndexName index) :
    foundEntries files (folder root index) = .ok entries := by
  have absent (noFolder : files.isFolder (folder root index) = false)
      (none : ∀ id document, documents id ≠ some document) :
      foundEntries files (folder root index) = .ok entries := by
    rw [foundEntries, noFolder, lists.eq_nil none]
    rfl
  by_cases usable : UsablePath (folder root index)
  · have located := layout.locate_outer named.followed usable true
    have isFolder := FileTree.isFolder_of_located located
    rcases layout.outer index with missing | present
    · refine absent (by rw [folder, isFolder, missing]; rfl) fun id document found => ?_
      cases missing.symm.trans (shelved.filed found).folder
    · have there : files.isFolder (folder root index) = true := by
        rw [folder, isFolder, present]
        rfl
      have pairs (entry : String × String) :=
        @Shelved.mem_found files root index place documents shelved layout unshadowed named entry
      rw [foundEntries_of_walk there (layout.walk_outer unshadowed located)]
      refine congrArg Except.ok (Keyed.eq_of_mem_iff (Keyed.sorted_ofList _) lists.sorted ?_)
      intro entry
      rw [lists.mem_iff, Keyed.mem_ofList_iff, pairs]
      -- Two files of one id would be one file.
      intro first member second other same
      obtain ⟨_, _, path⟩ := (pairs first).mp member
      obtain ⟨_, _, again⟩ := (pairs second).mp other
      exact Prod.ext same (by rw [path, again, same])
  · obtain ⟨fault, -, failed⟩ :=
      FileTree.locate_of_unusable (Path.join_ne_empty named.toPlainName root) usable
    refine absent (by rw [FileTree.isFolder, folder, failed]) fun id document found => ?_
    have filed := shelved.filed found
    exact usable (FileTree.usable_outer named.toPlainName filed.followed.noSlash filed.usable)

end Shelved

end Store

end AnswerGraph
