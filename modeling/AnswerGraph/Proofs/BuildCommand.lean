import AnswerGraph.Command.Run
import Mathlib.Tactic.Choose

/-!
The steps of a command. Most steps of a build change nothing but what is printed, so the files stay
those that the command found until the graph is written.
-/

namespace AnswerGraph

namespace Job

/-! ## Running jobs -/

theorem run_bind (job : Job α) (next : α → Job β) (session : Session) :
    (job >>= next).run session =
      match job.run session with
      | (.ok value, later) => (next value).run later
      | (.error messages, later) => (.error messages, later) := by
  change (ExceptT.bind job next) session = _
  simp only [ExceptT.bind, ExceptT.mk, ExceptT.bindCont, Bind.bind, StateT.bind, run]
  rcases job session with ⟨_ | _, _⟩ <;> rfl

@[simp] theorem run_pure (value : α) (session : Session) :
    (pure value : Job α).run session = (.ok value, session) := rfl

@[simp] theorem run_files (session : Session) : files.run session = (.ok session.files, session) :=
  rfl

@[simp] theorem run_attempt_ok (value : α) (explain : ε → List String) (session : Session) :
    (attempt (.ok value) explain).run session = (.ok value, session) := rfl

@[simp] theorem run_attempt_error (fault : ε) (explain : ε → List String) (session : Session) :
    (attempt (.error fault) explain : Job α).run session = (.error (explain fault), session) := rfl

@[simp] theorem run_print (line : String) (session : Session) :
    (print line).run session =
      (.ok (), { session with output := session.output ++ line ++ "\n" }) := rfl

/-! ## Jobs that only look -/

/-- Jobs that change and print nothing, and whose answer is determined by the files. -/
def Looks (job : Job α) : Prop :=
  ∃ answer : FileTree → Except (List String) α,
    ∀ session, job.run session = (answer session.files, session)

namespace Looks

theorem value (value : α) : Looks (pure value) :=
  ⟨fun _ => .ok value, fun _ => rfl⟩

theorem fail (messages : List String) : Looks (fail messages : Job α) :=
  ⟨fun _ => .error messages, fun _ => rfl⟩

theorem files : Looks files :=
  ⟨.ok, fun _ => rfl⟩

theorem attempt (result : Except ε α) (explain : ε → List String) :
    Looks (attempt result explain) :=
  ⟨fun _ => result.mapError explain, fun _ => rfl⟩

theorem bind {first : Job α} {next : α → Job β} (early : Looks first)
    (late : ∀ value, Looks (next value)) : Looks (first >>= next) := by
  obtain ⟨answer, answered⟩ := early
  choose later answeredLater using late
  refine ⟨fun files => (answer files).bind fun value => later value files, fun session => ?_⟩
  rw [run_bind, answered]
  change _ = ((answer session.files).bind fun value => later value session.files, session)
  cases answer session.files with
  | error messages => rfl
  | ok value => exact answeredLater value session

theorem run_eq {job : Job α} (looks : Looks job) (session : Session) :
    ∃ result, job.run session = (result, session) := by
  obtain ⟨answer, answered⟩ := looks
  exact ⟨answer session.files, answered session⟩

end Looks

end Job

namespace Command

open Job

/-! ## Settings and inputs -/

theorem looks_configurationOf (path : Option String) : Looks (configurationOf path) := by
  cases path with
  | none => exact .value _
  | some path =>
    refine .bind .files fun files => .bind (.attempt _ _) fun configuration => ?_
    exact .bind (.attempt _ _) fun _ => .value configuration

theorem looks_inputPath (given configured : Option String) (what : String) :
    Looks (inputPath given configured what) := by
  unfold inputPath
  cases given.or configured with
  | none => exact .fail _
  | some path => exact .value path

theorem looks_storeSettings (configuration : Configuration) :
    Looks (storeSettings configuration) := by
  unfold storeSettings
  cases configuration.store with
  | none => exact .fail _
  | some settings => exact .value settings

/-- Opening the store and taking a document from it changes nothing. -/
theorem looks_storedAnswers (configuration : Configuration) (id : String) :
    Looks (storedAnswers configuration id) := by
  refine .bind (looks_storeSettings configuration) fun settings => .bind .files fun files => ?_
  refine .bind (.attempt _ _) fun store => .bind (.attempt _ _) fun found => ?_
  cases found with
  | none => exact .fail _
  | some document => exact .value document

theorem looks_answerSource (options : BuildOptions) (configuration : Configuration) :
    Looks (answerSource options configuration) := by
  unfold answerSource
  cases options.answers with
  | some path => exact .value (Source.file path)
  | none =>
    cases options.documentId with
    | none => exact .fail _
    | some id => exact .bind (looks_storedAnswers configuration id) fun _ => .value _

/-- The answers of a build are the document that its store shows. -/
theorem storedAnswers_run {configuration : Configuration} {settings : StoreSettings} {store : Store}
    {id : String} {document : Json} {session : Session}
    (configured : configuration.store = some settings)
    (loaded : Store.load session.files settings.root settings.indexes = .ok store)
    (found : store.get session.files settings.answersIndex id = .ok (some document)) :
    (storedAnswers configuration id).run session = (.ok document, session) := by
  simp only [storedAnswers, storeSettings, configured, run_bind, run_pure, run_files, loaded,
    run_attempt_ok, found]

/-! ## Building -/

/-- A document of the store may stand for a file of answers from which the same is built. -/
theorem runBuild_eq (stamp : BuildStamp) (options : BuildOptions) {path id : String}
    {value : Json} {session : Session}
    (stored : ∀ configuration,
      (configurationOf options.configuration).run session = (.ok configuration, session) →
      (storedAnswers configuration id).run session = (.ok value, session))
    (same : ∀ identifiers templates patterns,
      Build.ofSources identifiers session.files (.json value) templates patterns =
        Build.ofSources identifiers session.files (.file path) templates patterns) :
    (runBuild stamp { options with answers := none, documentId := some id }).run session =
      (runBuild stamp { options with answers := some path }).run session := by
  obtain ⟨result, ran⟩ := (looks_configurationOf options.configuration).run_eq session
  simp only [runBuild, run_bind, ran]
  cases result with
  | error messages => rfl
  | ok configuration =>
    have taken : (answerSource { options with answers := none, documentId := some id }
        configuration).run session = (.ok (.json value), session) := by
      simp only [answerSource, map_eq_pure_bind, run_bind, stored configuration ran, run_pure]
    have given : (answerSource { options with answers := some path } configuration).run session =
        (.ok (.file path), session) := rfl
    obtain ⟨templates, early⟩ := (looks_inputPath options.templates
      configuration.sources.questionTemplates "question templates").run_eq session
    obtain ⟨patterns, late⟩ := (looks_inputPath options.patterns configuration.sources.patterns
      "pattern file").run_eq session
    simp only [taken, given, templatesPath, patternsPath, early]
    cases templates with
    | error messages => rfl
    | ok templates =>
      simp only [late]
      cases patterns with
      | error messages => rfl
      | ok patterns =>
        by_cases told : options.output.isSome = true
        · simp only [if_pos told, run_bind, run_print, run_files, same]
          rfl
        · simp only [if_neg told, run_bind, run_files, same]
          rfl

end Command

end AnswerGraph
