import AnswerGraph.Configuration.File
import AnswerGraph.Proofs.DocumentForm
import AnswerGraph.Proofs.FileTree

/-!
Configurations that are written to files and read again. A written object has one member for each
field that is set, and no member has a value that stands for no value, so every field is read as it
was written. What was written to a path is read from there, and nothing is written of a
configuration that is not usable.
-/

namespace AnswerGraph

open Document (Slot)

/-- What a written object says about a field with this value, if it has one. -/
def Json.slot (value : Option Json) : Slot :=
  value.elim .absent fun value => .given value.toDocument

/-- A written object is searched for its own members. -/
theorem Json.slots?_toDocument {members : List (String × Json)}
    (distinct : (members.map (·.1)).Nodup) (fields : List String) :
    (toDocument (.object members)).slots? fields =
      some (fields.map fun field => slot (members.lookup field)) := by
  obtain ⟨choice, record⟩ := recordOf_eq (membersToDocument members)
  rw [toDocument, record, membersToDocument_eq, Document.slots?_named]
  · refine congrArg some (List.map_congr_left fun field _ => ?_)
    rw [Keyed.lookup_map, slot]
    cases members.lookup field <;> rfl
  · rw [List.map_map]
    exact distinct

/-- The reader finds what was written. -/
def Restores (read : Document → Option α) (write : α → Json) : Prop :=
  ∀ value, read (write value).toDocument = some value

namespace Restores

variable {read : Document → Option α} {write : α → Json}

theorem required? (restores : Restores read write) (value : α) :
    Slot.required? read (Json.slot (some (write value))) = some value := restores value

theorem getD? (restores : Restores read write) (default value : α) :
    Slot.getD? default read (Json.slot (some (write value))) = some value := restores value

/-- A value that is not written like null is told from a missing one. -/
theorem optional? (restores : Restores read write)
    (filled : ∀ value, (write value).toDocument.isNull = false) (value : Option α) :
    Slot.optional? read (Json.slot (value.map write)) = some value := by
  cases value with
  | none => rfl
  | some value =>
    rw [Option.map_some, Json.slot, Option.elim_some, Slot.optional?, filled value, restores value]
    rfl

end Restores

theorem Document.restores_text? : Restores text? .string := fun _ => rfl

theorem Document.restores_flag? : Restores flag? .bool := fun _ => rfl

theorem Document.restores_texts? : Restores texts? Json.strings := by
  intro values
  rw [Json.strings, Json.toDocument, Json.itemsToDocument_eq, List.map_map, texts?, listOf?,
    List.mapM_map]
  exact List.mapM_pure.trans (congrArg some (List.map_id values))

theorem Json.isNull_object (members : List (String × Json)) :
    (toDocument (.object members)).isNull = false := by
  obtain ⟨choice, record⟩ := recordOf_eq (membersToDocument members)
  rw [toDocument, record]
  rfl

/-! ## Records -/

namespace Identifiers

theorem restores : Restores ofDocument? toJson := by
  intro identifiers
  have slots : identifiers.toJson.toDocument.slots? fields = some [
      Json.slot (some (.string identifiers.variableBase)),
      Json.slot (some (.string identifiers.subjectBase))] :=
    Json.slots?_toDocument (by simp) fields
  rw [ofDocument?, slots]
  simp only [Option.bind_eq_bind, Option.bind_some, Document.restores_text?.getD?]

theorem numberless_toJson (identifiers : Identifiers) : identifiers.toJson.Numberless :=
  .object (by simp [Json.Numberless.string])

end Identifiers

namespace OutputSettings

theorem restores_mode : Restores (fun value => value.choice?.bind OutputMode.ofName?)
    fun mode => .string mode.name := by
  intro mode
  cases mode <;> rfl

theorem restores_format : Restores (fun value => value.choice?.bind LinkedFormat.ofName?)
    fun format => .string format.name := by
  intro format
  cases format <;> rfl

theorem restores : Restores ofDocument? toJson := by
  intro settings
  have slots : settings.toJson.toDocument.slots? fields = some [
      Json.slot (some (.string settings.mode.name)),
      Json.slot (some (.string settings.format.name)),
      Json.slot (some (.bool settings.pretty))] :=
    Json.slots?_toDocument (by simp) fields
  rw [ofDocument?, slots]
  simp only [Option.bind_eq_bind, Option.bind_some, restores_mode.getD?, restores_format.getD?,
    Document.restores_flag?.getD?]

theorem numberless_toJson (settings : OutputSettings) : settings.toJson.Numberless :=
  .object (by simp [Json.Numberless.string, Json.Numberless.bool])

end OutputSettings

theorem Json.numberless_memberIfSome {name : String} {value : Option Json}
    (inner : ∀ found ∈ value, found.Numberless) :
    ∀ member ∈ memberIfSome name value, member.2.Numberless := by
  cases value with
  | none => nofun
  | some value =>
    intro member listed
    rw [List.mem_singleton.mp listed]
    exact inner value rfl

namespace InputPaths

theorem restores : Restores ofDocument? toJson := by
  intro paths
  have slots : paths.toJson.toDocument.slots? fields = some [
      Json.slot (paths.questionTemplates.map .string),
      Json.slot (paths.patterns.map .string)] := by
    obtain ⟨_ | questionTemplates, _ | patterns⟩ := paths <;>
      exact Json.slots?_toDocument (by simp [Json.memberIfSome]) fields
  rw [ofDocument?, slots]
  simp only [Option.bind_eq_bind, Option.bind_some,
    Document.restores_text?.optional? fun _ => rfl]

theorem numberless_toJson (paths : InputPaths) : paths.toJson.Numberless := by
  refine .object (List.forall_mem_append.mpr
    ⟨Json.numberless_memberIfSome ?_, Json.numberless_memberIfSome ?_⟩)
  · simp [Json.Numberless.string]
  · simp [Json.Numberless.string]

end InputPaths

namespace StoreSettings

theorem restores : Restores ofDocument? toJson := by
  intro settings
  have slots : settings.toJson.toDocument.slots? fields = some [
      Json.slot (some (.string settings.root)),
      Json.slot (some (.string settings.answersIndex)),
      Json.slot (some (.strings settings.indexes)),
      Json.slot (some (.bool settings.cache))] :=
    Json.slots?_toDocument (by simp) fields
  rw [ofDocument?, slots]
  simp only [Option.bind_eq_bind, Option.bind_some, Document.restores_text?.required?,
    Document.restores_text?.getD?, Document.restores_texts?.getD?, Document.restores_flag?.getD?]

theorem numberless_toJson (settings : StoreSettings) : settings.toJson.Numberless := by
  have indexes : (Json.strings settings.indexes).Numberless :=
    .array (by simp [Json.Numberless.string])
  exact .object (by simp [Json.Numberless.string, Json.Numberless.bool, indexes])

end StoreSettings

namespace Configuration

theorem restores : Restores ofDocument? toJson := by
  intro configuration
  have slots : configuration.toJson.toDocument.slots? fields = some [
      Json.slot (some (.string configuration.name)),
      Json.slot (some (.string configuration.description)),
      Json.slot (some (.string configuration.version)),
      Json.slot (some configuration.identifiers.toJson),
      Json.slot (some configuration.output.toJson),
      Json.slot (some configuration.sources.toJson),
      Json.slot (configuration.store.map StoreSettings.toJson)] := by
    obtain ⟨_, _, _, _, _, _, _ | store⟩ := configuration <;>
      exact Json.slots?_toDocument (by simp [Json.memberIfSome]) fields
  rw [ofDocument?, slots]
  simp only [Option.bind_eq_bind, Option.bind_some, Document.restores_text?.required?,
    Document.restores_text?.getD?, Identifiers.restores.getD?, OutputSettings.restores.getD?,
    InputPaths.restores.getD?,
    StoreSettings.restores.optional? fun _ => Json.isNull_object _]

theorem numberless_toJson (configuration : Configuration) : configuration.toJson.Numberless := by
  refine .object (List.forall_mem_append.mpr ⟨?_, Json.numberless_memberIfSome ?_⟩)
  · simp [Json.Numberless.string, Identifiers.numberless_toJson, OutputSettings.numberless_toJson,
      InputPaths.numberless_toJson]
  · intro found written
    obtain ⟨settings, -, rfl⟩ := Option.map_eq_some_iff.mp written
    exact settings.numberless_toJson

/-- A configuration is read back from its JSON text. -/
theorem ofText?_text (configuration : Configuration) :
    ofText? .json (configuration.text .json) = some configuration := by
  simp only [ofText?, text, Json.ofJson?_render configuration.numberless_toJson true,
    Option.bind_eq_bind, Option.bind_some, restores configuration]

/-! ## Files -/

variable {files after : FileTree} {path : String} {configuration : Configuration}

/-- A configuration that was saved is usable, and its text was written last. -/
theorem exists_of_save (saved : save files path configuration = (after, .ok ())) :
    configuration.check = .ok () ∧
      ∃ made : FileTree, made.writeText path (configuration.text (.ofPath path)) = .ok after := by
  rw [save] at saved
  split at saved
  · cases saved
  · next usable =>
    refine ⟨usable, ?_⟩
    split at saved
    · cases saved
    · next made _ =>
      split at saved
      · next written =>
        cases saved
        exact ⟨made, written⟩
      · cases saved

/-- A configuration that is saved in a JSON file is loaded from there and is usable; of one that is
not usable nothing is written. -/
theorem load_of_save (files : FileTree) (path : String) (configuration : Configuration)
    (extension : Path.extension? path = some "json") :
    (∀ after, save files path configuration = (after, .ok ()) →
      load after path = .ok configuration ∧ configuration.check = .ok ()) ∧
      ∀ cause, configuration.check = .error cause →
        save files path configuration = (files, .error (.unusable cause)) := by
  have format : ConfigurationFormat.ofPath path = .json := if_pos extension
  constructor
  · intro after saved
    obtain ⟨usable, made, written⟩ := exists_of_save saved
    rw [format] at written
    refine ⟨?_, usable⟩
    simp only [load, FileTree.readText_of_writeText written, format, ofText?_text]
  · intro cause refused
    simp only [save, refused]

/-- The settings to start from, with a base that is not absolute. -/
def relativeSample : Configuration :=
  { sample with identifiers := { subjectBase := "answers/" } }

/-- A working folder with one new folder in it. -/
def newFolder : FileTree := (FileTree.empty []).set ["new"] .folder

theorem makeFolderOf_new : makeFolderOf (.empty []) "new/kg.json" = (newFolder, .ok ()) := by
  have above : (Path.parent? "new/kg.json").filter (!·.isEmpty) = some "new" := by decide +kernel
  have plain : FileTree.dropSlashes "new" = "new" := by decide +kernel
  have located : FileTree.locate (.empty []) false "new" = .ok ["new"] :=
    FileTree.locate_eq_ok_iff.mpr ⟨⟨by decide, by decide, by decide⟩,
      .missing ⟨by decide, by decide, by decide⟩ rfl⟩
  have made : FileTree.makeFolder (.empty []) "new" = .ok newFolder := by
    rw [FileTree.makeFolder, plain, located]
    rfl
  simp only [makeFolderOf, above, FileTree.makeFolders,
    FileTree.makeFoldersUpTo_of_made (by decide) made]
  rfl

theorem locate_newFolder : newFolder.locate true "new/kg.json" = .ok ["new", "kg.json"] :=
  FileTree.locate_eq_ok_iff.mpr ⟨⟨by decide, by decide, by decide⟩,
    .enter ⟨by decide, by decide, by decide⟩ rfl
      (.missing ⟨by decide, by decide, by decide⟩ rfl)⟩

theorem load_of_save_sample :
    Path.extension? "new/kg.json" = some "json" ∧
      (∃ after, save (.empty []) "new/kg.json" sample = (after, .ok ()) ∧
        load after "new/kg.json" = .ok sample ∧ sample.check = .ok ()) ∧
      relativeSample.check = .error (.relativeBase "identifiers.subject_base" "answers/") ∧
      save (.empty []) "new/kg.json" relativeSample =
        (.empty [], .error (.unusable (.relativeBase "identifiers.subject_base" "answers/"))) := by
  have extension : Path.extension? "new/kg.json" = some "json" := by decide +kernel
  have usable : sample.check = .ok () := by decide +kernel
  have refused : relativeSample.check =
      .error (.relativeBase "identifiers.subject_base" "answers/") := by decide +kernel
  have written (text : String) : newFolder.writeText "new/kg.json" text =
      .ok (newFolder.set ["new", "kg.json"] (.file (.text text))) :=
    FileTree.write_of_located locate_newFolder (by decide) (.text text)
  have saved : ∃ after, save (.empty []) "new/kg.json" sample = (after, .ok ()) := by
    simp only [save, usable, makeFolderOf_new, written]
    exact ⟨_, rfl⟩
  obtain ⟨after, saved⟩ := saved
  refine ⟨extension, ⟨after, saved, ?_⟩, refused, ?_⟩
  · exact (load_of_save (.empty []) "new/kg.json" sample extension).1 after saved
  · exact (load_of_save (.empty []) "new/kg.json" relativeSample extension).2 _ refused

end Configuration

end AnswerGraph
