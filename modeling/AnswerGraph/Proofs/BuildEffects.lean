import AnswerGraph.Proofs.BuildCommand
import AnswerGraph.Proofs.FileTree
import AnswerGraph.Proofs.StoreLayout
import Mathlib.Data.List.Basic

/-!
What a build does to files. All steps before the last only look: what they answer is determined by
the files that the command found. So a build that writes does what the same build without an output
path does, up to the text; it changes files only when this text is there.
-/

namespace AnswerGraph

namespace Job

/-- How two jobs end that do the same until one of them prints a text and the other writes it. -/
inductive Ended (path : String) (printed written : Session) :
    Except (List String) Unit × Session → Except (List String) Unit × Session → Prop
  /-- Both fail before there is a text. -/
  | failed (messages : List String) {output : String} :
    Ended path printed written (.error messages, printed)
      (.error messages, { written with output })
  /-- The text is printed by one and written by the other. -/
  | finished {text output : String} {files : FileTree}
    (placed : written.files.writeText path text = .ok files) :
    Ended path printed written
      (.ok (), { printed with output := printed.output ++ text ++ "\n" }) (.ok (), ⟨files, output⟩)
  /-- The text is printed by one but cannot be written by the other. -/
  | refused {text output : String} {fault : FileError} (messages : List String)
    (misplaced : written.files.writeText path text = .error fault) :
    Ended path printed written
      (.ok (), { printed with output := printed.output ++ text ++ "\n" })
      (.error messages, { written with output })

/-- Jobs that do the same, from the same files, until one prints a text and the other writes it. -/
def Counterparts (path : String) (printing writing : Job Unit) : Prop :=
  ∀ printed written, printed.files = written.files →
    Ended path printed written (printing.run printed) (writing.run written)

theorem run_writeText_ok {path text : String} {session : Session} {files : FileTree}
    (placed : session.files.writeText path text = .ok files) (messages : List String) :
    (writeText path text messages).run session = (.ok (), { session with files }) := by
  simp only [run, writeText, placed]

theorem run_writeText_error {path text : String} {session : Session} {fault : FileError}
    (misplaced : session.files.writeText path text = .error fault) (messages : List String) :
    (writeText path text messages).run session = (.error messages, session) := by
  simp only [run, writeText, misplaced]

namespace Counterparts

variable {path : String} {printing writing : Job Unit}

/-- What both look at first is the same. -/
theorem bind {first : Job α} {printing writing : α → Job Unit} (looks : Looks first)
    (late : ∀ value, Counterparts path (printing value) (writing value)) :
    Counterparts path (first >>= printing) (first >>= writing) := by
  intro printed written same
  obtain ⟨answer, answered⟩ := looks
  rw [run_bind, run_bind, answered, answered, same]
  cases answer written.files with
  | error messages => exact .failed messages
  | ok value => exact late value printed written same

/-- One may print before what the other does alike. -/
theorem announce (alike : Counterparts path printing writing) (line : String) :
    Counterparts path printing (print line >>= fun _ => writing) := by
  intro printed written same
  have ended := alike printed { written with output := written.output ++ line ++ "\n" } same
  rw [run_bind, run_print]
  change Ended path printed written (printing.run printed) (writing.run _)
  generalize printing.run printed = first, writing.run _ = second at ended ⊢
  cases ended with
  | failed messages => exact .failed messages
  | finished placed => exact .finished placed
  | refused messages misplaced => exact .refused messages misplaced

/-- Where one prints the text, the other writes it and may tell so. -/
theorem finish (path text : String) (messages : List String) (first second : String) :
    Counterparts path (print text) (do
      writeText path text messages
      print first
      print second) := by
  intro printed written _
  cases placed : written.files.writeText path text with
  | error fault =>
    simp only [run_bind, run_writeText_error placed]
    exact .refused messages placed
  | ok files =>
    simp only [run_bind, run_writeText_ok placed, run_print]
    exact .finished placed

end Counterparts

end Job

namespace Command

open Job

/-! ## Building -/

/-- A build that writes does what the printing one does, up to the text. -/
theorem runBuild_counterparts (stamp : BuildStamp) {options : BuildOptions} {path : String}
    (given : options.output = some path) :
    Counterparts path (runBuild stamp { options with output := none })
      (runBuild stamp options) := by
  simp only [runBuild, given]
  refine .bind (looks_configurationOf _) fun configuration => ?_
  refine .bind (looks_answerSource options configuration) fun answers => ?_
  refine .bind (looks_inputPath _ _ _) fun templates => ?_
  refine .bind (looks_inputPath _ _ _) fun patterns => ?_
  refine .announce ?_ _
  refine .bind .files fun files => ?_
  refine .bind (.attempt _ _) fun build => .bind (.attempt _ _) fun text => ?_
  exact .finish path text _ _ _

/-! ## Runs -/

/-- How two commands end that do the same until one of them prints a text and the other writes it,
over an old file or as a new one. -/
inductive Outcome.Ended (path : String) (files : FileTree) : Outcome → Outcome → Prop
  | failed (messages : List String) {output told : String} :
    Ended path files ⟨1, output, some messages, files⟩ ⟨1, told, some messages, files⟩
  | finished {text told : String} {place : Location}
    (located : files.locate true path = .ok place) (free : files.entry? place ≠ some .folder) :
    Ended path files ⟨0, text ++ "\n", none, files⟩
      ⟨0, told, none, files.set place (.file (.text text))⟩
  | refused {text told : String} (messages : List String)
    (misplaced : ∀ place, files.locate true path = .ok place →
      files.entry? place = some .folder) :
    Ended path files ⟨0, text ++ "\n", none, files⟩ ⟨1, told, some messages, files⟩

namespace Outcome.Ended

variable {path : String} {files : FileTree} {printing writing : Outcome}

theorem files_printing (ended : Ended path files printing writing) : printing.files = files := by
  cases ended <;> rfl

theorem files_of_failed (ended : Ended path files printing writing) (failed : writing.status ≠ 0) :
    writing.files = files := by
  cases ended with
  | failed messages => rfl
  | finished located free => exact absurd rfl failed
  | refused messages misplaced => rfl

/-- Only the place that the path leads to may have another entry. -/
theorem entry?_other (ended : Ended path files printing writing) {place : Location}
    (other : files.locate true path ≠ .ok place) :
    writing.files.entry? place = files.entry? place := by
  cases ended with
  | failed messages => rfl
  | finished located free =>
    rw [FileTree.entry?_set files (FileTree.inner_of_not_folder files free), if_neg]
    rintro rfl
    exact other located
  | refused messages misplaced => rfl

/-- One writes what the other prints, where there is a place for it. -/
theorem writes (ended : Ended path files printing writing) {text : String} {place : Location}
    (printed : printing.status = 0) (shown : printing.output = text ++ "\n")
    (located : files.locate true path = .ok place) (free : files.entry? place ≠ some .folder) :
    writing.status = 0 ∧ writing.files = files.set place (.file (.text text)) := by
  cases ended with
  | failed messages => cases printed
  | finished found _ =>
    obtain rfl := (String.append_left_inj "\n").mp shown
    obtain rfl := Except.ok.inj (found.symm.trans located)
    exact ⟨rfl, rfl⟩
  | refused messages misplaced => exact absurd (misplaced place located) free

theorem status_of_failed (ended : Ended path files printing writing) (failed : printing.status ≠ 0) :
    writing.status = 1 := by
  cases ended with
  | failed messages => rfl
  | finished located free => exact absurd rfl failed
  | refused messages misplaced => rfl

end Outcome.Ended

theorem run_build_ended (stamp : BuildStamp) (files : FileTree) {options : BuildOptions}
    {path : String} (given : options.output = some path) :
    Outcome.Ended path files ((build { options with output := none }).run stamp files)
      ((build options).run stamp files) := by
  have ended := runBuild_counterparts stamp given { files } { files } rfl
  simp only [Command.run, job]
  generalize (runBuild stamp { options with output := none }).run { files } = printed,
    (runBuild stamp options).run { files } = written at ended ⊢
  cases ended with
  | failed messages => exact .failed messages
  | finished placed =>
    obtain ⟨place, located, free, rfl⟩ := FileTree.located_of_write placed
    simp only [String.empty_append]
    exact .finished located free
  | refused messages misplaced =>
    simp only [String.empty_append]
    refine .refused messages fun place located => ?_
    by_contra free
    rw [FileTree.writeText, FileTree.write_of_located located free] at misplaced
    cases misplaced

/-- A build from files that the command line names, without a configuration. -/
theorem run_build_files (stamp : BuildStamp) (files : FileTree) {options : BuildOptions}
    {answers templates patterns : String}
    (printing : options.output = none) (unconfigured : options.configuration = none)
    (fromAnswers : options.answers = some answers)
    (fromTemplates : options.templates = some templates)
    (fromPatterns : options.patterns = some patterns) :
    (build options).run stamp files =
      match Build.ofSources {} files (.file answers) (.file templates) (.file patterns) with
      | .error fault => ⟨1, "", some ["Knowledge graph build failed", fault.message], files⟩
      | .ok built =>
        match built.graph.render (outputSettings options {}) with
        | .error fault =>
          let mode := (outputSettings options {}).mode.name
          ⟨1, "", some [s!"Failed to render graph as {mode}", fault.message], files⟩
        | .ok text => ⟨0, text ++ "\n", none, files⟩ := by
  simp only [Command.run, job, runBuild, configurationOf, answerSource, templatesPath, patternsPath,
    inputPath, printing, unconfigured, fromAnswers, fromTemplates, fromPatterns, run_bind, run_pure,
    Option.or, Option.isSome_none, Bool.false_eq_true, if_false, run_files]
  cases Build.ofSources {} files (.file answers) (.file templates) (.file patterns) with
  | error fault => simp only [run_attempt_error]
  | ok built =>
    simp only [run_attempt_ok]
    cases built.graph.render (outputSettings options {}) with
    | error fault => simp only [run_attempt_error]
    | ok text => simp only [run_attempt_ok, run_print, String.empty_append]

/-! ## Arguments -/

/-- The name of the command that arguments call for: the first of them that is no option. -/
def word? (arguments : List String) : Option String :=
  match readOptions (versionOption :: commonOptions) (arguments.length + 1) [] arguments with
  | .ok (_, name :: _) => some name
  | _ => none

theorem build_of_readBuild {arguments : List String} {command : Command}
    (read : readBuild arguments = .ok command) : ∃ options, command = build options := by
  unfold readBuild at read
  cases given : allOptions buildOptions arguments with
  | error stop =>
    rw [given] at read
    cases read
  | ok given =>
    simp only [given, bind, Except.bind] at read
    split at read
    · cases read
    · cases read
      exact ⟨_, rfl⟩

/-- What calls for a build stands for a build, if it stands for any command. -/
theorem build_of_word {arguments : List String} {command : Command}
    (named : word? arguments = some "build") (read : ofArguments arguments = .ok command) :
    ∃ options, command = build options := by
  unfold word? at named
  unfold ofArguments at read
  split at named
  · next found =>
    obtain rfl := Option.some.inj named
    rw [found] at read
    exact build_of_readBuild read
  · cases named

/-- The path that the arguments of a build name for its output. -/
def outputPath? (arguments : List String) : Option String :=
  match ofArguments arguments with
  | .ok (build options) => options.output
  | _ => none

variable (stamp : BuildStamp) (files : FileTree)

theorem files_of_printing {options : BuildOptions} (given : options.output = none) :
    ((build options).run stamp files).files = files := by
  have same : { { options with output := some "" } with output := none } = options := by
    rw [← given]
  have asked : { options with output := some "" }.output = some "" := rfl
  have ended := run_build_ended stamp files asked
  rw [same] at ended
  exact ended.files_printing

/-- A build that fails leaves all files as they were, as does one that prints. Every other place
than that of the output keeps its entry. A build that writes does what the same build does when it
prints: it fails where that fails, and else it leaves what that prints at the place of the output,
unless that is no place for a file. -/
theorem build_changes_output_only {arguments : List String}
    (named : word? arguments = some "build") :
    let outcome := runArguments stamp files arguments
    (outcome.status ≠ 0 → outcome.files = files) ∧
      (outputPath? arguments = none → outcome.files = files) ∧
      (∀ place, (∀ path, outputPath? arguments = some path → files.locate true path ≠ .ok place) →
        outcome.files.entry? place = files.entry? place) ∧
      ∀ options path, ofArguments arguments = .ok (build options) → options.output = some path →
        Outcome.Ended path files ((build { options with output := none }).run stamp files)
          outcome := by
  intro outcome
  cases read : ofArguments arguments with
  | error stop =>
    have kept : outcome.files = files := by
      simp only [outcome, runArguments, read]
      cases stop <;> rfl
    refine ⟨fun _ => kept, fun _ => kept, fun place _ => by rw [kept], ?_⟩
    intro options path other
    cases other
  | ok command =>
    obtain ⟨options, rfl⟩ := build_of_word named read
    have ran : outcome = (build options).run stamp files := by
      simp only [outcome, runArguments, read]
    have asked : outputPath? arguments = options.output := by
      simp only [outputPath?, read]
    have prints (given : options.output = none) : outcome.files = files := by
      rw [ran]
      exact files_of_printing stamp files given
    have writes (path : String) (given : options.output = some path) :
        Outcome.Ended path files ((build { options with output := none }).run stamp files)
          outcome := by
      rw [ran]
      exact run_build_ended stamp files given
    rw [asked]
    refine ⟨?_, prints, ?_, ?_⟩
    · intro failed
      cases given : options.output with
      | none => exact prints given
      | some path => exact (writes path given).files_of_failed failed
    · intro place other
      cases given : options.output with
      | none => rw [prints given]
      | some path => exact (writes path given).entry?_other (other path given)
    · intro options path same given
      cases same
      exact writes path given

/-! ## A workshop -/

def workshopAnswers : String :=
  "\x7b\"answer_documents\": [\x7b\"final_answer\": [], " ++
    "\"question_template\": [\"M\"], \"final_result\": \"y\"\x7d]\x7d"

def workshopTemplates : String :=
  "[\x7b\"broader_questionType\": \"M\", \"specific_questionType\": \"M\"\x7d]"

/-- A literal stands in the place of the predicate, so that the statement can be shown as a row but
not as linked data. -/
def workshopPatterns : String := "IF M:\n<part> is done .\n\n"

/-- The inputs of a build and an old output. -/
def workshop : FileTree where
  entries := [
    (["a.json"], .file (.text workshopAnswers)),
    (["t.json"], .file (.text workshopTemplates)),
    (["p.txt"], .file (.text workshopPatterns)),
    (["out"], .file (.text "old"))]

def workshopSet : PatternSet where
  namespaces := {}
  variableTable := { base := Variables.defaultBase, names := ["part"] }
  patterns := [[⟨[.named "part" "http://example_data.org/variable/0", .literal "is",
    .literal "done"]⟩]]
  blocks := [{ condition := ⟨["M"], .only⟩, pattern := 0, line := 1 }]

def workshopSource : AnswerSource where
  answers := [{ detailIds := [], templateNames := ["M"], finalResult := "y" }]

def workshopBuild : Build :=
  .ofParts {} workshopSet [{ broaderType := "M", specificType := "M" }] workshopSource

theorem located_workshop {name : String} (listed : name ∈ ["a.json", "t.json", "p.txt", "out"]) :
    workshop.locate true name = .ok [name] := by
  have named : ∀ name ∈ ["a.json", "t.json", "p.txt", "out"],
      (name ≠ "" ∧ Char.ofNat 0 ∉ name.toList ∧ name ≠ "." ∧ name ≠ "..") ∧
        name.utf8ByteSize ≤ FileTree.maxName ∧ FileTree.stepsOf name = [name] := by
    decide
  have held : ∀ name ∈ ["a.json", "t.json", "p.txt", "out"],
      ∃ text, workshop.entry? [name] = some (.file (.text text)) := by
    simp only [List.forall_mem_cons]
    exact ⟨⟨_, rfl⟩, ⟨_, rfl⟩, ⟨_, rfl⟩, ⟨_, rfl⟩, List.forall_mem_nil _⟩
  obtain ⟨⟨filled, noZero, notDot, notDots⟩, short, single⟩ := named name listed
  obtain ⟨text, found⟩ := held name listed
  have shortPath : name.utf8ByteSize ≤ FileTree.maxPath := Nat.le_trans short (by decide)
  apply FileTree.locate_eq_ok_iff.mpr
  refine ⟨⟨filled, noZero, shortPath⟩, ?_⟩
  rw [single, FileTree.startOf, show workshop.working = [] from rfl, ite_self]
  exact .file ⟨notDot, notDots, short⟩ found

theorem ofSources_workshop :
    Build.ofSources {} workshop (.file "a.json") (.file "t.json") (.file "p.txt") =
      .ok workshopBuild := by
  have read (name text : String) (listed : name ∈ ["a.json", "t.json", "p.txt", "out"])
      (held : workshop.entry? [name] = some (.file (.text text))) :
      workshop.readText name = .ok text :=
    FileTree.readText_of_located (located_workshop listed) held
  have patterns : (Source.file "p.txt").loadPatterns workshop Variables.defaultBase =
      .ok workshopSet := by
    simp only [Source.loadPatterns, read "p.txt" workshopPatterns (by decide) rfl]
    decide +kernel
  have answers : (Source.file "a.json").loadAnswers workshop = .ok workshopSource := by
    simp only [Source.loadAnswers, Source.document, read "a.json" workshopAnswers (by decide) rfl]
    decide +kernel
  have templates : (Source.file "t.json").loadTemplates workshop =
      .ok [{ broaderType := "M", specificType := "M" }] := by
    simp only [Source.loadTemplates, Source.document,
      read "t.json" workshopTemplates (by decide) rfl]
    decide +kernel
  unfold Build.ofSources
  rw [patterns, answers, templates]
  rfl

/-- The arguments of a build of the workshop, with its mode. -/
def workshopArguments (mode : String) : List String :=
  ["-v", "build", "-aa.json", "--templates", "t.json", "--patterns=p.txt", "-o", "out",
    "--compact", "-m", mode]

def workshopOptions (mode : OutputMode) : BuildOptions where
  answers := some "a.json"
  documentId := none
  templates := some "t.json"
  patterns := some "p.txt"
  mode := some mode
  format := none
  output := some "out"
  configuration := none
  compact := true

def workshopRows : String :=
  "[[\"http://example_data.org/variable/0\",\"is\",\"done\"]]"

def workshopStamp : BuildStamp where
  id := BuildStamp.randomId 0
  builtAt := ⟨⟨2024, 2, 29⟩, 12, 30, 0, 0⟩
  seconds := ⟨false, 1, -3⟩

/-- As linked data the graph cannot be shown, after all that was read and built; as rows it can. -/
theorem build_changes_output_only_workshop :
    let linked := runArguments workshopStamp workshop (workshopArguments "linked")
    let plain := runArguments workshopStamp workshop (workshopArguments "plain")
    (word? (workshopArguments "linked") = some "build" ∧ linked.status = 1 ∧
        linked.files = workshop) ∧
      word? (workshopArguments "plain") = some "build" ∧ plain.status = 0 ∧
        plain.files = workshop.set ["out"] (.file (.text workshopRows)) ∧
        plain.files.entry? ["p.txt"] = workshop.entry? ["p.txt"] := by
  intro linked plain
  have calls : ∀ mode ∈ ["linked", "plain"], word? (workshopArguments mode) = some "build" := by
    decide +kernel
  have readLinked : ofArguments (workshopArguments "linked") =
      .ok (build (workshopOptions .linked)) := by
    decide +kernel
  have readPlain : ofArguments (workshopArguments "plain") =
      .ok (build (workshopOptions .plain)) := by
    decide +kernel
  have callsLinked := calls "linked" (by decide)
  have callsPlain := calls "plain" (by decide)
  obtain ⟨keeps, -, -, fails⟩ := build_changes_output_only workshopStamp workshop callsLinked
  obtain ⟨-, -, others, writes⟩ := build_changes_output_only workshopStamp workshop callsPlain
  have unshown : ((build { workshopOptions .linked with output := none }).run workshopStamp
      workshop).status ≠ 0 := by
    rw [run_build_files workshopStamp workshop rfl rfl rfl rfl rfl, ofSources_workshop]
    decide +kernel
  have failed := (fails _ "out" readLinked rfl).status_of_failed unshown
  have shown : ((build { workshopOptions .plain with output := none }).run workshopStamp
        workshop).status = 0 ∧
      ((build { workshopOptions .plain with output := none }).run workshopStamp
        workshop).output = workshopRows ++ "\n" := by
    rw [run_build_files workshopStamp workshop rfl rfl rfl rfl rfl, ofSources_workshop]
    decide +kernel
  have located : workshop.locate true "out" = .ok ["out"] := located_workshop (by decide)
  obtain ⟨done, written⟩ :=
    (writes _ "out" readPlain rfl).writes shown.1 shown.2 located (by decide)
  refine ⟨⟨callsLinked, failed, keeps (by rw [failed]; decide)⟩, callsPlain, done, written, ?_⟩
  apply others
  intro path asked
  have named : outputPath? (workshopArguments "plain") = some "out" := by
    simp only [outputPath?, readPlain, workshopOptions]
  obtain rfl := Option.some.inj (named.symm.trans asked)
  rw [located]
  decide

end Command

end AnswerGraph
