import AnswerGraph.Proofs.FolderLayout
import AnswerGraph.Proofs.JsonText
import AnswerGraph.Proofs.Keyed
import AnswerGraph.Proofs.StoreSteps

/-!
How a store lies in its root folder, if the names of its indexes are single names: a document is a
file in the folder of its index, and an index file is a file in a folder of its own.
-/

namespace AnswerGraph

open FileTree (Layout UsablePath Followed innerPath)

namespace Store

/-! ## Names of files -/

/-- The name of a file of JSON. -/
def fileName (name : String) : String :=
  name ++ ".json"

theorem documentPath_eq (root index id : String) :
    documentPath root index id = innerPath root index (fileName id) := rfl

theorem indexFile_eq (root index : String) :
    indexFile root index = innerPath root "indexes" (fileName index) := rfl

theorem fileName_injective {first second : String} (same : fileName first = fileName second) :
    first = second :=
  (String.append_left_inj ".json").mp same

theorem plain_indexes : PlainName "indexes" :=
  ⟨by decide, by decide, by decide, by decide⟩

theorem followed_indexes : Followed "indexes" :=
  ⟨plain_indexes, by decide⟩

theorem toList_fileName (name : String) :
    (fileName name).toList = name.toList ++ ['.', 'j', 's', 'o', 'n'] := by
  simp [fileName]

theorem plain_fileName {name : String} (noSlash : '/' ∉ name.toList) :
    PlainName (fileName name) := by
  have letters := toList_fileName name
  have different {other : String} (short : other.toList.length < 5) : fileName name ≠ other := by
    rintro rfl
    rw [letters, List.length_append] at short
    exact absurd short (Nat.not_lt.mpr (Nat.le_add_left 5 _))
  refine ⟨different (by decide), ?_, different (by decide), different (by decide)⟩
  rw [letters, List.mem_append]
  rintro (slash | slash)
  · exact noSlash slash
  · simp at slash

theorem noSlash_of_valid {id : String} (valid : isValidId id = true) : '/' ∉ id.toList := by
  simp only [isValidId, Bool.and_eq_true, Bool.not_eq_true', List.contains_eq_mem,
    decide_eq_false_iff_not] at valid
  exact valid.1.1.2

/-- The folder of an index file. -/
theorem parent?_indexFile (root : String) {index : String} (noSlash : '/' ∉ index.toList) :
    Path.parent? (indexFile root index) = some (Path.join root "indexes") := by
  have plain := plain_fileName noSlash
  have folderEnds : (Path.join root "indexes").toList =
      ((Path.lead root).toList ++ "indexe".toList) ++ ['s'] := by
    rw [Path.join_eq plain_indexes.noSlash]
    simp
  have nameEnds : (fileName index).toList = (index.toList ++ ".jso".toList) ++ ['n'] := by
    simp [fileName]
  rw [indexFile_eq, FileTree.innerPath_eq plain_indexes plain.noSlash]
  exact Path.parent?_append folderEnds nameEnds (by simp [Path.Solid]) (by simp [Path.Solid])
    plain.noSlash

/-- A name that an index can have: it is a single name other than that of the folder of index files,
and the name of its index file is not too long. -/
structure IndexName (name : String) : Prop extends PlainName name where
  apart : name ≠ "indexes"
  short : (fileName name).utf8ByteSize ≤ FileTree.maxName

theorem IndexName.followed {name : String} (named : IndexName name) : Followed name := by
  refine ⟨named.toPlainName, Nat.le_trans ?_ named.short⟩
  rw [fileName, String.utf8ByteSize_append]
  exact Nat.le_add_right _ _

theorem IndexName.followed_file {name : String} (named : IndexName name) :
    Followed (fileName name) :=
  ⟨plain_fileName named.noSlash, named.short⟩

end Store

namespace StoreAction

section Layout

variable {state : StoreState} {root name file : String} {place : Location}

/-! ## Writing files -/

theorem placeFile_run (layout : Layout state.files root place) (followed : Followed name)
    (followedFile : Followed file) (usable : UsablePath (innerPath root name file))
    (text : String) :
    (placeFile (some (Path.join root name)) (innerPath root name file) text).run state =
      (.ok (), { state with files := state.files.putFile place name file (.text text) }) := by
  have usableFolder := FileTree.usable_outer followed.toPlainName followedFile.noSlash usable
  have folder : FileTree.entry? (state.files.withFolder (place ++ [name])) (place ++ [name]) =
      some .folder := by
    rw [FileTree.entry?_withFolder layout, if_pos rfl]
  have written := (layout.withFolder name).write_inner followed followedFile usable folder
    (.text text)
  simp only [placeFile, run_bind, makeFolders_run, layout.makeFolders_outer followed usableFolder,
    writeText_run, FileTree.writeText, written]
  rfl

/-- A file is only written if its name and that of its folder can be followed. -/
theorem followed_of_placeFile (layout : Layout state.files root place) (plain : PlainName name)
    (plainFile : PlainName file) {text : String}
    (placed : ((placeFile (some (Path.join root name)) (innerPath root name file) text).run
      state).1 = .ok ()) :
    Followed name ∧ Followed file ∧ UsablePath (innerPath root name file) := by
  simp only [placeFile, run_bind, makeFolders_run] at placed
  cases made : (state.files.makeFolders (Path.join root name)).2 with
  | error fault => simp [made] at placed
  | ok =>
    obtain ⟨followed, usableFolder⟩ := layout.followed_of_makeFolders plain made
    have folder : FileTree.entry? (state.files.withFolder (place ++ [name])) (place ++ [name]) =
        some .folder := by
      rw [FileTree.entry?_withFolder layout, if_pos rfl]
    simp only [layout.makeFolders_outer followed usableFolder, writeText_run] at placed
    cases written : (state.files.withFolder (place ++ [name])).writeText
        (innerPath root name file) text with
    | error fault => simp [written] at placed
    | ok after =>
      exact ⟨followed,
        (layout.withFolder name).followed_of_write followed plainFile folder written⟩

/-- A file is written, or there is a fault; a refusal does not occur. -/
theorem placeFile_result (folder : Option String) (path text : String) (state : StoreState) :
    ((placeFile folder path text).run state).1 = .ok () ∨
      ∃ broken after, (placeFile folder path text).run state = (.error (.fault broken), after) := by
  have written (state : StoreState) : ((writeText path text).run state).1 = .ok () ∨
      ∃ broken after, (writeText path text).run state = (.error (.fault broken), after) := by
    rw [writeText_run]
    cases state.files.writeText path text with
    | ok files => exact .inl rfl
    | error fault => exact .inr ⟨path, state, rfl⟩
  cases folder with
  | none => exact written state
  | some folder =>
    simp only [placeFile, run_bind, makeFolders_run]
    cases (state.files.makeFolders folder).2 with
    | ok => exact written _
    | error fault => exact .inr ⟨folder, _, rfl⟩

theorem placeFile_cases (layout : Layout state.files root place) (plain : PlainName name)
    (plainFile : PlainName file) (text : String) :
    (∃ broken after, (placeFile (some (Path.join root name)) (innerPath root name file) text).run
        state = (.error (.fault broken), after)) ∨
      Followed file ∧ UsablePath (innerPath root name file) ∧
        (placeFile (some (Path.join root name)) (innerPath root name file) text).run state =
          (.ok (), { state with files := state.files.putFile place name file (.text text) }) := by
  rcases placeFile_result (some (Path.join root name)) (innerPath root name file) text state with
    placed | failed
  · obtain ⟨followed, followedFile, usable⟩ := followed_of_placeFile layout plain plainFile placed
    exact .inr ⟨followedFile, usable, placeFile_run layout followed followedFile usable text⟩
  · exact .inl failed

theorem saveEntries_run_layout (layout : Layout state.files root place)
    (rooted : state.store.root = root) {index : String} (noSlash : '/' ∉ index.toList)
    (followedFile : Followed (Store.fileName index))
    (usable : UsablePath (Store.indexFile root index)) (entries : DocumentIndex) :
    (saveEntries index entries).run state =
      (.ok (), ⟨state.store.withEntries index entries, state.files.putFile place "indexes"
        (Store.fileName index) (.text (entriesText entries))⟩) := by
  let listed : StoreState := { state with store := state.store.withEntries index entries }
  have moved : Layout listed.files root place := layout
  rw [saveEntries_run, rooted, Store.parent?_indexFile root noSlash, Store.indexFile_eq]
  exact placeFile_run moved Store.followed_indexes followedFile usable _

end Layout

end StoreAction

namespace Store

open StoreAction

section Layout

variable {files : FileTree} {state : StoreState} {root : String} {place : Location}

/-! ## Storing a document -/

/-- The files after a document was stored and the entries of its index were written. -/
def storedFiles (files : FileTree) (place : Location) (index id : String) (document : Json)
    (entries : DocumentIndex) : FileTree :=
  (files.putFile place index (fileName id) (.text (document.render true))).putFile place "indexes"
    (fileName index) (.text (entriesText entries))

/-- A document is stored if the paths of its file and of the index file can be used. -/
theorem put_of_usable (layout : Layout state.files root place) (rooted : state.store.root = root)
    {index id : String} {document : Json} {overwrite : Bool} {entries : DocumentIndex}
    (named : IndexName index) (valid : isValidId id = true)
    (known : state.store.entries index = .ok entries)
    (allowed : (entries.lookup id).isSome = true → overwrite = true)
    (usable : UsablePath (documentPath root index id)) (followed : Followed (fileName id))
    (listable : UsablePath (indexFile root index)) :
    (put index id document overwrite).run state =
      (.ok true, ⟨state.store.withEntries index
          (Keyed.insert id (documentPath root index id) entries),
        storedFiles state.files place index id document
          (Keyed.insert id (documentPath root index id) entries)⟩) := by
  let next : StoreState := ⟨state.store,
    state.files.putFile place index (fileName id) (.text (document.render true))⟩
  have moved : Layout next.files root place := layout.putFile index (fileName id) _
  have placed := placeFile_run layout named.followed followed usable (document.render true)
  have saved := saveEntries_run_layout moved rooted named.noSlash named.followed_file listable
    (Keyed.insert id (documentPath root index id) entries)
  simp only [next] at saved
  rw [put_of_allowed valid known allowed, rooted, run_bind]
  simp only [folder, documentPath_eq] at placed saved ⊢
  simp only [placed, run_bind, saved, run_pure, storedFiles]

theorem layout_storedFiles (layout : Layout files root place) (index id : String)
    (document : Json) (entries : DocumentIndex) :
    Layout (storedFiles files place index id document entries) root place :=
  (layout.putFile ..).putFile ..

theorem folder_storedFiles (layout : Layout files root place) (index id : String)
    (document : Json) (entries : DocumentIndex) :
    FileTree.entry? (storedFiles files place index id document entries) (place ++ [index]) =
      some .folder := by
  have made := FileTree.entry?_putFile layout index (fileName id) (.text (document.render true))
    (place ++ [index])
  rw [if_neg (by simp), if_pos rfl] at made
  rw [storedFiles, FileTree.entry?_putFile (layout.putFile ..), if_neg (by simp), made, ite_self]

theorem listFolder_storedFiles (layout : Layout files root place) (index id : String)
    (document : Json) (entries : DocumentIndex) :
    FileTree.entry? (storedFiles files place index id document entries) (place ++ ["indexes"]) =
      some .folder := by
  rw [storedFiles, FileTree.entry?_putFile (layout.putFile ..), if_neg (by simp), if_pos rfl]

theorem held_storedFiles (layout : Layout files root place) {index : String}
    (apart : index ≠ "indexes") (id : String) (document : Json) (entries : DocumentIndex) :
    FileTree.entry? (storedFiles files place index id document entries)
        (place ++ [index, fileName id]) =
      some (.file (.text (document.render true))) := by
  rw [storedFiles, FileTree.entry?_putFile (layout.putFile ..), if_neg (by simp [apart]),
    if_neg (by simp), FileTree.entry?_putFile layout, if_pos rfl]

/-! ## Reading index files -/

/-- An index file is read as it was written. -/
theorem readIndex_of_written {path : String} {found : Location} {entries : DocumentIndex}
    (located : files.locate true path = .ok found)
    (held : files.entry? found = some (.file (.text (entriesText entries))))
    (sorted : Keyed.Sorted entries) : readIndex files path = .ok entries := by
  have read := Json.ofJson?_render (Json.canonical_strings sorted 0).numberless true
  rw [Json.stringMembers, ← entriesText] at read
  have texts := Json.textMembers?_strings entries
  rw [Json.stringMembers] at texts
  simp [readIndex, FileTree.readText_of_located located held, read, texts,
    Keyed.ofList_of_sorted sorted]

theorem readIndex_of_absent {path : String} (absent : files.readText path = .error .notFound) :
    readIndex files path = .ok [] := by
  rw [readIndex, absent]

/-- Without a folder of index files no index has entries, whatever its name. -/
theorem readIndex_of_noFolder {files : FileTree} {root name : String} {place : Location}
    (layout : Layout files root place) (absent : files.entry? (place ++ ["indexes"]) = none)
    (noSlash : '/' ∉ name.toList) (usable : UsablePath (indexFile root name)) :
    Store.readIndex files (indexFile root name) = .ok [] := by
  have nowhere := layout.locate_inner_absent followed_indexes (plain_fileName noSlash) usable
    absent true
  exact readIndex_of_absent (FileTree.readText_of_unlocated nowhere)

/-- An index file with a name that is too long cannot be looked for once there is a folder of index
files. -/
theorem readIndex_of_long {files : FileTree} {root name : String} {place : Location}
    (layout : Layout files root place)
    (folder : files.entry? (place ++ ["indexes"]) = some .folder) (noSlash : '/' ∉ name.toList)
    (long : FileTree.maxName < (fileName name).utf8ByteSize)
    (usable : UsablePath (indexFile root name)) :
    Store.readIndex files (indexFile root name) = .error (.fault (indexFile root name)) := by
  have stuck := layout.locate_inner_long followed_indexes (plain_fileName noSlash) long usable
    folder true
  rw [indexFile_eq, Store.readIndex, FileTree.readText_of_unlocated stuck]

/-! ## Opening a store -/

section Load

variable {names : List String}

theorem load_of_read {files : FileTree} {contents : String → DocumentIndex}
    (read : ∀ name ∈ names, Store.readIndex files (indexFile root name) = .ok (contents name)) :
    load files root names = .ok ⟨root, names.map fun name => (name, contents name)⟩ := by
  have all : (names.mapM fun name => do
      return (name, ← Store.readIndex files (indexFile root name))) =
      .ok (names.map fun name => (name, contents name)) := by
    induction names with
    | nil => rfl
    | cons name rest ih =>
      have more := ih fun other member => read other (List.mem_cons_of_mem _ member)
      rw [List.mapM_cons, read name List.mem_cons_self, more]
      rfl
  rw [load, all]
  rfl

theorem entries_of_names (root : String) (names : List String)
    (contents : String → DocumentIndex) (index : String) :
    Store.entries ⟨root, names.map fun name => (name, contents name)⟩ index =
      if index ∈ names then .ok (contents index) else .error (.unknownIndex index) := by
  rw [Store.entries]
  induction names with
  | nil => simp
  | cons name rest ih =>
    by_cases same : index = name
    · subst name
      simp
    · have other : (index == name) = false := beq_eq_false_iff_ne.mpr same
      simpa only [List.map_cons, List.lookup_cons, other, List.mem_cons, same, false_or] using ih

end Load

/-- A path leads to a folder in which there is nothing. -/
structure EmptyFolder (files : FileTree) (root : String) (place : Location) : Prop where
  lies : FileTree.FolderAt files root place
  bare : ∀ name rest, files.entry? (place ++ name :: rest) = none

theorem EmptyFolder.layout {files : FileTree} (empty : EmptyFolder files root place) :
    Layout files root place :=
  ⟨empty.lies, fun name => .inl (empty.bare name []),
    fun name file => .inl (empty.bare name [file]), fun {name} _ file => empty.bare name [file]⟩

/-- In an empty folder there are no index files to read, whatever their names. -/
theorem EmptyFolder.readIndex {files : FileTree} (empty : EmptyFolder files root place)
    {index : String} (noSlash : '/' ∉ index.toList) (usable : UsablePath (indexFile root index)) :
    Store.readIndex files (indexFile root index) = .ok [] :=
  readIndex_of_noFolder empty.layout (empty.bare "indexes" []) noSlash usable

end Layout

/-! ## Names that are too long -/

/-- A name of so many letters. -/
def letters (count : Nat) : String :=
  String.ofList (List.replicate count 'b')

theorem toList_letters (count : Nat) : (letters count).toList = List.replicate count 'b' := by
  simp [letters]

theorem utf8ByteSize_letters (count : Nat) : (letters count).utf8ByteSize = count := by
  induction count with
  | zero => decide
  | succ count ih =>
    have first : letters (count + 1) = "b" ++ letters count :=
      String.toList_inj.mp (by simp [toList_letters, List.replicate_succ])
    rw [first, String.utf8ByteSize_append, ih, Nat.add_comm]
    rfl

theorem mem_letters {count : Nat} {c : Char} (member : c ∈ (letters count).toList) : c = 'b' := by
  rw [toList_letters] at member
  exact List.eq_of_mem_replicate member

theorem letters_ne {count : Nat} {name : String} (shorter : name.utf8ByteSize < count) :
    letters count ≠ name := by
  rintro rfl
  rw [utf8ByteSize_letters] at shorter
  exact Nat.lt_irrefl count shorter

theorem plain_letters {count : Nat} (long : 2 < count) : PlainName (letters count) := by
  have other {name : String} (short : name.utf8ByteSize ≤ 2) : letters count ≠ name :=
    letters_ne (Nat.lt_of_le_of_lt short long)
  refine ⟨other (by decide), fun slash => ?_, other (by decide), other (by decide)⟩
  exact absurd (mem_letters slash) (by decide)

theorem usable_letters {count : Nat} (long : 2 < count) (short : count ≤ 1000) :
    UsablePath (indexFile "." (letters count)) := by
  have noSlash := (plain_fileName (plain_letters long).noSlash).noSlash
  have path : indexFile "." (letters count) = "./indexes/" ++ (letters count ++ ".json") := by
    rw [indexFile_eq, FileTree.innerPath_eq plain_indexes noSlash]
    rfl
  rw [path]
  refine ⟨?_, fun zero => ?_, ?_⟩
  · rw [Ne, String.append_eq_empty_iff]
    exact fun both => absurd both.1 (by decide)
  · rw [String.toList_append, String.toList_append, List.mem_append, List.mem_append] at zero
    rcases zero with front | middle | back
    · exact absurd front (by decide)
    · exact absurd (mem_letters middle) (by decide)
    · exact absurd back (by decide)
  · rw [String.utf8ByteSize_append, String.utf8ByteSize_append, utf8ByteSize_letters]
    have front : "./indexes/".utf8ByteSize = 10 := by decide
    have back : ".json".utf8ByteSize = 5 := by decide
    rw [front, back, FileTree.maxPath]
    omega

/-! ## A document in the working folder -/

theorem empty_working : EmptyFolder (.empty []) "." [] :=
  ⟨⟨.stay .here, rfl⟩, fun _ _ => rfl⟩

theorem load_working {names : List String}
    (listable : ∀ name ∈ names, '/' ∉ name.toList ∧ UsablePath (indexFile "." name)) :
    load (.empty []) "." names = .ok ⟨".", names.map fun name => (name, [])⟩ :=
  @load_of_read "." names (.empty []) (fun _ => []) fun name member =>
    empty_working.readIndex (listable name member).1 (listable name member).2

theorem named_a : IndexName "a" :=
  ⟨⟨by decide, by decide, by decide, by decide⟩, by decide, by decide⟩

theorem listable_a : UsablePath (indexFile "." "a") :=
  ⟨by decide, by decide, by decide⟩

theorem listable_indexes : UsablePath (indexFile "." "indexes") :=
  ⟨by decide, by decide, by decide⟩

/-- Names of indexes, of which one is too long for an index file. -/
def longNames : List String :=
  ["a", letters 252]

theorem nodup_longNames : longNames.Nodup := by
  simpa [longNames] using (letters_ne (by decide : "a".utf8ByteSize < 252)).symm

theorem plain_longNames : ∀ name ∈ longNames, PlainName name ∧ name ≠ "indexes" := by
  intro name member
  rcases List.mem_cons.mp member with rfl | member
  · exact ⟨named_a.toPlainName, named_a.apart⟩
  · obtain rfl := List.mem_singleton.mp member
    exact ⟨plain_letters (by decide), letters_ne (by decide)⟩

theorem listable_longNames :
    ∀ name ∈ longNames, '/' ∉ name.toList ∧ UsablePath (indexFile "." name) := by
  intro name member
  refine ⟨(plain_longNames name member).1.noSlash, ?_⟩
  rcases List.mem_cons.mp member with rfl | member
  · exact listable_a
  · obtain rfl := List.mem_singleton.mp member
    exact usable_letters (by decide) (by decide)

/-- Once there is a folder of index files, the long name keeps a store from being opened. -/
theorem load_longNames {files : FileTree} {place : Location} (layout : Layout files "." place)
    (folder : files.entry? (place ++ ["indexes"]) = some .folder) {entries : DocumentIndex}
    (read : readIndex files (indexFile "." "a") = .ok entries) :
    load files "." longNames = .error (.fault (indexFile "." (letters 252))) := by
  have long : FileTree.maxName < (fileName (letters 252)).utf8ByteSize := by
    rw [fileName, String.utf8ByteSize_append, utf8ByteSize_letters]
    decide
  have stuck := readIndex_of_long layout folder (plain_letters (by decide)).noSlash long
    (usable_letters (by decide) (by decide))
  simp only [load, longNames, List.mapM_cons, read, stuck]
  rfl

/-- A document that gives itself the id `y`. -/
def documentY : Json :=
  .object [("id", .string "y")]

theorem readable_documentY : Json.parse? (documentY.render true) = some documentY := by
  have text : documentY.render true = "\x7b\n  \"id\": \"y\"\n\x7d" := by
    simp only [Json.render, documentY, Json.print, Json.printMembers]
    cbv
  rw [text]
  cbv

theorem readable_empty : Json.parse? ((Json.object []).render true) = some (.object []) := by
  cbv

theorem usable_x : UsablePath (documentPath "." "a" "x") :=
  ⟨by decide, by decide, by decide⟩

theorem followed_x : Followed (fileName "x") :=
  ⟨plain_fileName (by decide), by decide⟩

/-- The files after the document was put under the id `x`. -/
def filesX : FileTree :=
  storedFiles (.empty []) [] "a" "x" documentY [("x", documentPath "." "a" "x")]

theorem layout_filesX : Layout filesX "." [] :=
  layout_storedFiles empty_working.layout ..

theorem folder_filesX : filesX.entry? ([] ++ ["indexes"]) = some .folder :=
  listFolder_storedFiles empty_working.layout ..

theorem put_x {store : Store} (known : store.entries "a" = .ok []) (rooted : store.root = ".") :
    (put "a" "x" documentY false).run ⟨store, .empty []⟩ =
      (.ok true, ⟨store.withEntries "a" [("x", documentPath "." "a" "x")], filesX⟩) := by
  have layout : Layout (⟨store, .empty []⟩ : StoreState).files "." [] := empty_working.layout
  have ran : (put "a" "x" documentY false).run ⟨store, .empty []⟩ = _ :=
    put_of_usable layout rooted named_a (by decide) known (by simp) usable_x followed_x listable_a
  rw [ran, Keyed.insert, filesX]

end Store

end AnswerGraph
