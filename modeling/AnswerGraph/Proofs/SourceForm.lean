import AnswerGraph.Proofs.BuildCommand
import AnswerGraph.Proofs.DocumentForm
import AnswerGraph.Proofs.StoreFrame
import AnswerGraph.Proofs.StoreUpkeep

/-!
A document is the same however it is supplied: as a text, in a file, as the value that the text
holds, or put into a store under an id and fetched again. What is put is lost only where its file is
the index file, which is written after it.
-/

namespace AnswerGraph

namespace Source

/-! ## Ways to supply a document -/

/-- A text holds a value, and no record in it repeats a name. -/
structure Holds (text : String) (value : Json) : Prop where
  read : Json.parse? text = some value
  distinct : ∀ {document}, Document.ofJson? text = some document → document.Distinct

/-- The sources that supply the value of a text. -/
inductive Supplies (files : FileTree) (text : String) (value : Json) : Source → Prop
  | text : Supplies files text value (.text text)
  | file {path : String} (held : files.readText path = .ok text) :
      Supplies files text value (.file path)
  | json : Supplies files text value (.json value)

section Supplies

variable {files : FileTree} {text : String} {value : Json} {source other : Source}

theorem Holds.alike (holds : Holds text value) :
    ∃ document, Document.ofJson? text = some document ∧
      document.toJson? Document.maxDepth = some value ∧
      Document.Alike document value.toDocument := by
  obtain ⟨document, written, read⟩ := Option.bind_eq_some_iff.mp holds.read
  refine ⟨document, written, read, ?_⟩
  exact Json.alike_toDocument (Json.shaped_of_ofJson? written) (holds.distinct written) read

/-- Readers find in a source that supplies a value what they find in the value. -/
theorem Supplies.document (supplies : Supplies files text value source)
    (holds : Holds text value) (what : String) (whole : Bool) :
    ∃ document, source.document what whole files = .ok document ∧
      ∀ {α : Type} {read : Document → Option α}, Document.Respects read →
        read document = read value.toDocument := by
  obtain ⟨document, written, read, alike⟩ := holds.alike
  cases supplies with
  | text =>
    refine ⟨document, ?_, fun respects => respects alike⟩
    simp [Source.document, written, read]
  | file held =>
    refine ⟨document, ?_, fun respects => respects alike⟩
    simp [Source.document, held, written, read]
  | json => exact ⟨_, rfl, fun _ => rfl⟩

theorem Supplies.loadAnswers_eq (supplies : Supplies files text value source)
    (holds : Holds text value) :
    source.loadAnswers files = (Source.json value).loadAnswers files := by
  obtain ⟨document, read, same⟩ := supplies.document holds "answer source" false
  have found := same AnswerSource.respects_ofDocument?
  rw [loadAnswers, loadAnswers, read]
  simp only [Bind.bind, Except.bind, Source.document, found]

theorem Supplies.loadTemplates_eq (supplies : Supplies files text value source)
    (holds : Holds text value) :
    source.loadTemplates files = (Source.json value).loadTemplates files := by
  obtain ⟨document, read, same⟩ := supplies.document holds "question templates" true
  have found := same QuestionTemplate.respects_listOfDocument?
  rw [loadTemplates, loadTemplates, read]
  simp only [Bind.bind, Except.bind, Source.document, found]

/-- A build is the same for answers that are loaded alike. -/
theorem Supplies.ofSources_eq (supplies : Supplies files text value source)
    (holds : Holds text value) (identifiers : Identifiers) (templates patterns : Source) :
    Build.ofSources identifiers files (.json value) templates patterns =
      Build.ofSources identifiers files source templates patterns := by
  rw [Build.ofSources, Build.ofSources, supplies.loadAnswers_eq holds]

end Supplies

end Source

namespace Store

open StoreAction
open FileTree (Layout UsablePath Followed)

/-! ## What was put is fetched -/

section Put

variable {index id : String} {document : Json} {overwrite : Bool} {state after : StoreState}
  {result : Except StoreError Bool}

/-- After a document was put, its entry leads to its file, in memory and in the index file. -/
theorem PutStep.entries_own (step : PutStep index id document overwrite state result after)
    (succeeded : result = .ok true)
    (sorted : ∀ entries, state.store.entries index = .ok entries → Keyed.Sorted entries) :
    ∃ entries, after.store.entries index = .ok entries ∧
      readIndex after.files (indexFile state.store.root index) = .ok entries ∧
      entries.lookup id = some (documentPath state.store.root index id) := by
  obtain ⟨old, place, known, stored, located, held⟩ := step.entries_of_stored succeeded
  have kept := readIndex_of_written located held (Keyed.sorted_insert (sorted old known))
  exact ⟨_, stored, kept, Keyed.lookup_insert ..⟩

theorem PutStep.member (step : PutStep index id document overwrite state result after)
    (succeeded : result = .ok true) {root : String} {names : List String}
    (arranged : Arranged root names state.store) : index ∈ names := by
  cases step with
  | stored _ known => exact arranged.member known
  | _ => cases succeeded

/-- The file of a document that was put can be followed, and is under a valid id. -/
theorem PutStep.located_own (step : PutStep index id document overwrite state result after)
    (succeeded : result = .ok true) :
    isValidId id = true ∧ ∃ place,
      after.files.locate true (documentPath state.store.root index id) = .ok place := by
  cases step with
  | stored valid _ _ wrote recorded =>
    obtain ⟨place, located, -⟩ := wrote.placed rfl
    exact ⟨valid, place, recorded.grown.keeps.locate located⟩
  | _ => cases succeeded

/-- The file of a document is not the index file if there are no links and the name of the index is
a single name other than that of the folder of index files. -/
theorem not_sameFile {files : FileTree} (free : files.LinkFree) {root : String}
    (named : FolderName index) (valid : isValidId id = true) :
    ¬ files.SameFile (documentPath root index id) (indexFile root index) := by
  rintro ⟨place, own, listed⟩
  rw [documentPath_eq] at own
  rw [indexFile_eq] at listed
  obtain ⟨middle, outer, rfl⟩ := free.locate_inner named.toPlainName
    (plain_fileName (noSlash_of_valid valid)) own
  obtain ⟨other, again, same⟩ := free.locate_inner plain_indexes
    (plain_fileName named.noSlash) listed
  cases outer.symm.trans again
  exact named.apart (append_pair_eq_iff.mp same).1

/-- A document that was put is shown under its id, and again when the store is opened again, unless
its file is the index file. -/
theorem PutStep.get_own (step : PutStep index id document overwrite state result after)
    (succeeded : result = .ok true) {root : String} {names : List String}
    (arranged : Arranged root names state.store)
    (apart : ¬ after.files.SameFile (documentPath root index id) (indexFile root index))
    (readable : Json.parse? (document.render true) = some document) :
    after.store.get after.files index id = .ok (some document) ∧
      ∀ {reopened}, load after.files root names = .ok reopened →
        reopened.get after.files index id = .ok (some document) := by
  obtain rfl := arranged.rooted
  obtain ⟨entries, known, kept, listed⟩ :=
    step.entries_own succeeded fun entries known => arranged.sorted known
  obtain ⟨valid, place, located⟩ := step.located_own succeeded
  have own := step.readDocument_own succeeded ⟨place, located, located⟩ apart readable
  have shown {store : Store} (known : store.entries index = .ok entries) :
      store.get after.files index id = .ok (some document) := by
    rw [get_eq, known]
    simp only [Except.map, listed, own]
  refine ⟨shown known, ?_⟩
  intro reopened loaded
  obtain ⟨contents, rfl, read⟩ := eq_of_load loaded
  have member : index ∈ names := step.member succeeded arranged
  cases kept.symm.trans (read index member)
  apply shown
  rw [entries_of_names, if_pos member]

end Put

/-- Commands with this configuration take their answers from this index of this store. -/
def TakesAnswers (root : String) (names : List String) (index : String)
    (configuration : Configuration) : Prop :=
  ∃ settings, configuration.store = some settings ∧ settings.root = root ∧
    settings.indexes = names ∧ settings.answersIndex = index

/-- A document is the same however it is supplied. Let a text hold a value, without a record that
repeats a name. From the text, from a file that holds it and from the value, the same answers and
templates are loaded, or loading fails in the same way, and a build from the file is a build from
the value. Once the value has been put into a store, whatever its index files said before, the store
shows it, and so it does when it is opened again; and the command that builds from the document of
the id does what it does for the file. This fails only where the file of the document is the index
file. It is not in a folder without links, if the name of the index is a single name other than that
of the folder of index files. -/
theorem supplied_alike {text : String} {value : Json} (holds : Source.Holds text value) :
    (∀ files source, Source.Supplies files text value source →
      source.loadAnswers files = (Source.json value).loadAnswers files ∧
        source.loadTemplates files = (Source.json value).loadTemplates files ∧
        ∀ identifiers templates patterns,
          Build.ofSources identifiers files (.json value) templates patterns =
            Build.ofSources identifiers files source templates patterns) ∧
    ∀ root names start state index id overwrite after,
      Json.parse? (value.render true) = some value →
      Changed (fun _ _ => True) root names start state → state.files.Grounded →
      (put index id value overwrite).run state = (.ok true, after) →
      (after.files.LinkFree → FolderName index →
        ¬ after.files.SameFile (documentPath root index id) (indexFile root index)) ∧
      (¬ after.files.SameFile (documentPath root index id) (indexFile root index) →
        after.store.get after.files index id = .ok (some value) ∧
        ∀ reopened, load after.files root names = .ok reopened →
          reopened.get after.files index id = .ok (some value) ∧
          ∀ stamp (options : BuildOptions) path session, session.files = after.files →
            session.files.readText path = .ok text →
            (∀ configuration, (Command.configurationOf options.configuration).run session =
              (.ok configuration, session) → TakesAnswers root names index configuration) →
            (Command.runBuild stamp
                { options with answers := none, documentId := some id }).run session =
              (Command.runBuild stamp { options with answers := some path }).run session) := by
  refine ⟨?loaded, ?stored⟩
  case loaded =>
    intro files source supplies
    exact ⟨supplies.loadAnswers_eq holds, supplies.loadTemplates_eq holds,
      supplies.ofSources_eq holds⟩
  case stored =>
    intro root names start state index id overwrite after readable changed grounded stored
    have arranged := changed.arranged
    have step := put_step_of_grounded index id value overwrite state grounded
    rw [stored] at step
    refine ⟨?_, ?_⟩
    · intro free named
      exact not_sameFile free named (step.located_own rfl).1
    · intro apart
      obtain ⟨shown, again⟩ := step.get_own rfl arranged apart readable
      refine ⟨shown, ?_⟩
      intro reopened loaded
      refine ⟨again loaded, ?_⟩
      intro stamp options path session same held takes
      -- A build sees the stored document only as a value, as it sees the file.
      apply Command.runBuild_eq stamp options
      · intro configuration read
        obtain ⟨settings, configured, rfl, rfl, rfl⟩ := takes configuration read
        exact Command.storedAnswers_run configured (same ▸ loaded) (same ▸ again loaded)
      · exact Source.Supplies.ofSources_eq (.file held) holds

/-! ## A source without answers -/

def noAnswersText : String :=
  "\x7b\"answer_documents\": []\x7d"

def noAnswers : Json :=
  .object [("answer_documents", .array [])]

theorem readable_noAnswers : Json.parse? (noAnswers.render true) = some noAnswers := by
  cbv

theorem holds_noAnswers : Source.Holds noAnswersText noAnswers := by
  refine ⟨by cbv, ?_⟩
  intro document written
  have known : Document.ofJson? noAnswersText =
      some (.record none (Document.named [("answer_documents", .list true [])])) := by
    cbv
  obtain rfl := Option.some.inj (known.symm.trans written)
  refine .record (by decide) ?_
  intro member listed
  obtain rfl := List.mem_singleton.mp listed
  exact .list (List.forall_mem_nil _)

theorem loadAnswers_noAnswers (files : FileTree) :
    (Source.json noAnswers).loadAnswers files = .ok { answers := [] } := by
  cbv

theorem linkFree_working : (FileTree.empty []).LinkFree := by
  intro place target linked
  cases place with
  | nil => cases linked
  | cons => cases linked

/-- The working folder after the source was put under the id `x`. -/
def keepingX : StoreState :=
  ⟨⟨".", [("a", [("x", documentPath "." "a" "x")])]⟩,
    storedFiles (.empty []) [] "a" "x" noAnswers [("x", documentPath "." "a" "x")]⟩

theorem put_keepingX :
    (put "a" "x" noAnswers false).run ⟨⟨".", [("a", [])]⟩, .empty []⟩ = (.ok true, keepingX) :=
  @put_of_usable ⟨⟨".", [("a", [])]⟩, .empty []⟩ "." [] empty_working.layout rfl "a" "x" noAnswers
    false [] named_a (by decide) rfl (by simp) usable_x followed_x listable_a

theorem linkFree_keepingX : keepingX.files.LinkFree :=
  (FileTree.extends_putFile (empty_working.layout.putFile ..) ..).keeps.linkFree
    ((FileTree.extends_putFile empty_working.layout ..).keeps.linkFree linkFree_working)

theorem load_keepingX : ∃ reopened, load keepingX.files "." ["a"] = .ok reopened := by
  have layout : Layout keepingX.files "." [] := layout_storedFiles empty_working.layout ..
  have present : keepingX.files.entry? ([] ++ ["indexes"]) = some .folder :=
    listFolder_storedFiles empty_working.layout ..
  have located := layout.locate_inner followed_indexes named_a.followed_file listable_a present true
  have read : readIndex keepingX.files (indexFile "." "a") =
      .ok [("x", documentPath "." "a" "x")] :=
    readIndex_of_written located rfl (List.pairwise_singleton _ _)
  exact ⟨_, @load_of_read "." ["a"] keepingX.files (fun _ => [("x", documentPath "." "a" "x")])
    (by simpa using read)⟩

/-- The source is loaded from its text, and the store shows it under the id that it was put under,
also after it was opened again. -/
theorem supplied_alike_noAnswers :
    Source.Holds noAnswersText noAnswers ∧
      (Source.text noAnswersText).loadAnswers (.empty []) = .ok { answers := [] } ∧
      Json.parse? (noAnswers.render true) = some noAnswers ∧
      ∃ state after, Changed (fun _ _ => True) "." ["a"] (.empty []) state ∧
        state.files.Grounded ∧ (put "a" "x" noAnswers false).run state = (.ok true, after) ∧
        after.files.LinkFree ∧ FolderName "a" ∧
        after.store.get after.files "a" "x" = .ok (some noAnswers) ∧
        ∃ reopened, load after.files "." ["a"] = .ok reopened ∧
          reopened.get after.files "a" "x" = .ok (some noAnswers) := by
  have listable : ∀ name ∈ ["a"], '/' ∉ name.toList ∧ UsablePath (indexFile "." name) := by
    simpa using And.intro named_a.noSlash listable_a
  have opened : Changed (fun _ _ => True) "." ["a"] (.empty []) ⟨⟨".", [("a", [])]⟩, .empty []⟩ :=
    .opened (load_working listable)
  have grounded := linkFree_working.grounded
  obtain ⟨loads, stores⟩ := supplied_alike holds_noAnswers
  obtain ⟨loaded, -, -⟩ := loads (.empty []) _ .text
  obtain ⟨separate, shows⟩ := stores "." ["a"] (.empty []) _ "a" "x" false _ readable_noAnswers
    opened grounded put_keepingX
  obtain ⟨shown, again⟩ := shows (separate linkFree_keepingX named_a.folderName)
  obtain ⟨reopened, loadedAgain⟩ := load_keepingX
  exact ⟨holds_noAnswers, loaded.trans (loadAnswers_noAnswers _), readable_noAnswers, _, _, opened,
    grounded, put_keepingX, linkFree_keepingX, named_a.folderName, shown, reopened, loadedAgain,
    (again reopened loadedAgain).1⟩

/-- The working folder after the source was put into an index that has the name of the folder of
index files, under that name. -/
def listedX : StoreState :=
  let entries := [("indexes", documentPath "." "indexes" "indexes")]
  ⟨⟨".", [("indexes", entries)]⟩, ((FileTree.empty []).putFile [] "indexes" (fileName "indexes")
      (.text (noAnswers.render true))).putFile [] "indexes" (fileName "indexes")
    (.text (entriesText entries))⟩

theorem followed_indexesFile : Followed (fileName "indexes") :=
  ⟨plain_fileName plain_indexes.noSlash, by decide⟩

theorem put_listedX :
    (put "indexes" "indexes" noAnswers false).run ⟨⟨".", [("indexes", [])]⟩, .empty []⟩ =
      (.ok true, listedX) := by
  let opened : StoreState := ⟨⟨".", [("indexes", [])]⟩, .empty []⟩
  let middle : StoreState := ⟨opened.store, opened.files.putFile [] "indexes" (fileName "indexes")
    (.text (noAnswers.render true))⟩
  have layout : Layout opened.files "." [] := empty_working.layout
  have moved : Layout middle.files "." [] := layout.putFile ..
  have placed := placeFile_run layout followed_indexes followed_indexesFile listable_indexes
    (noAnswers.render true)
  have saved := saveEntries_run_layout moved rfl plain_indexes.noSlash followed_indexesFile
    listable_indexes [("indexes", documentPath "." "indexes" "indexes")]
  have known : opened.store.entries "indexes" = .ok [] := rfl
  rw [put_of_allowed (by decide) known (by simp), run_bind]
  simp only [folder, documentPath_eq, middle, opened] at placed saved ⊢
  simp only [placed, run_bind, Keyed.insert, saved, run_pure]
  rfl

theorem loadAnswers_listing (path : String) (files : FileTree) :
    (Source.json (.object [("indexes", .string path)])).loadAnswers files =
      .error (.malformed "answer source") := by
  cbv

/-- What the store shows is no longer the source, from which there was something to load, but the
listing of the index, from which there is not. -/
theorem listing_shown_for_document :
    ∃ after listing,
      Changed (fun _ _ => True) "." ["indexes"] (.empty []) ⟨⟨".", [("indexes", [])]⟩, .empty []⟩ ∧
      (put "indexes" "indexes" noAnswers false).run ⟨⟨".", [("indexes", [])]⟩, .empty []⟩ =
        (.ok true, after) ∧
      after.store.get after.files "indexes" "indexes" = .ok (some listing) ∧
      (Source.json listing).loadAnswers after.files = .error (.malformed "answer source") ∧
      (Source.text noAnswersText).loadAnswers after.files = .ok { answers := [] } := by
  have listable : ∀ name ∈ ["indexes"], '/' ∉ name.toList ∧ UsablePath (indexFile "." name) := by
    simpa using And.intro plain_indexes.noSlash listable_indexes
  have layout : Layout listedX.files "." [] := (empty_working.layout.putFile ..).putFile ..
  have located :=
    layout.locate_inner followed_indexes followed_indexesFile listable_indexes rfl true
  let entries := [("indexes", documentPath "." "indexes" "indexes")]
  let listing : Json := .object (Json.stringMembers entries)
  have held : listedX.files.entry? ([] ++ ["indexes", fileName "indexes"]) =
      some (.file (.text (entriesText entries))) := rfl
  have written : Json.parse? (entriesText entries) = some listing :=
    Json.parse?_render (Json.canonical_strings (List.pairwise_singleton _ _) 126) true
  have read : readDocument listedX.files (documentPath "." "indexes" "indexes") = .ok listing := by
    rw [documentPath_eq, readDocument_of_located located, held]
    simp only [written]
  refine ⟨listedX, listing, .opened (load_working listable), put_listedX, ?_,
    loadAnswers_listing _ _, ?_⟩
  · have known : (listedX.store.entries "indexes").map (·.lookup "indexes") =
        .ok (some (documentPath "." "indexes" "indexes")) := rfl
    rw [get_eq, known]
    simp only [read, Except.map]
  · exact (Source.Supplies.text.loadAnswers_eq holds_noAnswers).trans (loadAnswers_noAnswers _)

end Store

end AnswerGraph
