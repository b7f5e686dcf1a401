import NumberingPlan.Command.Run
import NumberingPlan.Proofs.ArgumentTokens
import NumberingPlan.Proofs.LiteBuilds

/-! Runs of the command. The status of a run tells how far it came: nothing is changed unless it came to
storing what it built, and it is zero only for an answer or a build that is complete. That goes for any reader
of the options that keeps their rules, and for any readers of the settings. -/
namespace NumberingPlan.Command
open Storage

variable {registry : Registry} {environment : Settings.Environment} {tokens : List String} {files : FileTree}
  {readers : Readers}

/-- The style of the log that settings choose. -/
def styleOf (settings : Settings) : Logging.Style := if settings.jsonLogging then .json else .plain

/-- Why a build ends before it stores anything: its settings cannot be loaded, the log cannot be set up, or
its input cannot be read. -/
inductive FailsEarly (readers : Settings.Readers) (registry : Registry) (environment : Settings.Environment)
    (options : Build.Options) (config : Option Path) (files : FileTree) : Prop where
  | settings (failed : Settings.load files environment config none readers = .error fault)
  | logging (loaded : Settings.load files environment config none readers = .ok settings)
      (failed : initialSetup.configure settings.logLevel (styleOf settings) = .error level)
  | input (loaded : Settings.load files environment config none readers = .ok settings)
      (configured : initialSetup.configure settings.logLevel (styleOf settings) = .ok setup)
      (failed : (Build.loadInput registry options).run ⟨files, []⟩ = .error f w)

/-- How a run goes: the tokens are refused or answered, or a build ends early, or it stops while it stores,
or it is complete. Each has its status and leaves its files. -/
inductive Course (readers : Readers) (registry : Registry) (environment : Settings.Environment)
    (tokens : List String) (files : FileTree) : Nat → FileTree → Prop where
  | refused (asked : Request.ofTokens files tokens readers.options = .error fault) :
      Course readers registry environment tokens files 2 files
  | answered (asked : Request.ofTokens files tokens readers.options = .ok request)
      (answer : request = .help ∨ request = .version) : Course readers registry environment tokens files 0 files
  | early (asked : Request.ofTokens files tokens readers.options = .ok (.build options config))
      (fails : FailsEarly readers.settings registry environment options config files) :
      Course readers registry environment tokens files 1 files
  | stopped (asked : Request.ofTokens files tokens readers.options = .ok (.build options config))
      (loaded : Settings.load files environment config none readers.settings = .ok settings)
      (configured : initialSetup.configure settings.logLevel (styleOf settings) = .ok setup)
      (read : (Build.loadInput registry options).run ⟨files, []⟩ = .ok ts w)
      (failed : (Build.fromTerritories ts options settings).run w = .error f after) :
      Course readers registry environment tokens files 1 after.files
  | built (asked : Request.ofTokens files tokens readers.options = .ok (.build options config))
      (loaded : Settings.load files environment config none readers.settings = .ok settings)
      (configured : initialSetup.configure settings.logLevel (styleOf settings) = .ok setup)
      (done : (Build.run registry options settings).run ⟨files, []⟩ = .ok outcome after) :
      Course readers registry environment tokens files 0 after.files

section
variable {sources : Settings.Readers} {config : Option Path}

private theorem prepare_unsettled (failed : Settings.load files environment config none sources = .error fault) :
    (prepare environment config sources).run ⟨files, []⟩ = .error (.ofSettings fault) ⟨files, []⟩ := by
  unfold prepare
  rw [EStateM.run_bind, Session.get_run]
  dsimp only
  rw [EStateM.run_bind, failed, Session.lift_error]

private theorem prepare_unlogged (loaded : Settings.load files environment config none sources = .ok settings)
    (failed : initialSetup.configure settings.logLevel (styleOf settings) = .error level) :
    (prepare environment config sources).run ⟨files, []⟩ = .error (.unknownLevel level) ⟨files, []⟩ := by
  unfold prepare
  rw [EStateM.run_bind, Session.get_run]
  dsimp only
  rw [EStateM.run_bind, loaded, Session.lift_ok]
  dsimp only
  unfold styleOf at failed
  rw [EStateM.run_bind, failed, Session.lift_error]

private theorem prepare_ready (loaded : Settings.load files environment config none sources = .ok settings)
    (configured : initialSetup.configure settings.logLevel (styleOf settings) = .ok setup) :
    (prepare environment config sources).run ⟨files, []⟩ =
      .ok (settings, setup, styleOf settings) ⟨files, []⟩ := by
  unfold prepare
  rw [EStateM.run_bind, Session.get_run]
  dsimp only
  rw [EStateM.run_bind, loaded, Session.lift_ok]
  dsimp only
  unfold styleOf at configured
  rw [EStateM.run_bind, configured, Session.lift_ok]
  rfl

end

/-- Every run goes in one of these ways. -/
theorem run_course (readers : Readers) (registry : Registry) (environment : Settings.Environment)
    (tokens : List String) (files : FileTree) : Course readers registry environment tokens files
      (run registry environment tokens files readers).1.status (run registry environment tokens files readers).2 := by
  unfold run
  cases asked : Request.ofTokens files tokens readers.options with
  | error fault => exact .refused asked
  | ok request =>
    cases request with
    | help => exact .answered asked (.inl rfl)
    | version => exact .answered asked (.inr rfl)
    | build options config =>
      dsimp only
      unfold runBuild
      cases loaded : Settings.load files environment config none readers.settings with
      | error fault =>
        rw [prepare_unsettled loaded]
        exact .early asked (.settings loaded)
      | ok settings =>
        cases configured : initialSetup.configure settings.logLevel (styleOf settings) with
        | error level =>
          rw [prepare_unlogged loaded configured]
          exact .early asked (.logging loaded configured)
        | ok setup =>
          rw [prepare_ready loaded configured]
          dsimp only
          cases done : (Build.run registry options settings).run ⟨files, []⟩ with
          | ok outcome after => exact .built asked loaded configured done
          | error f after =>
            have kept := Build.loadInput_files registry options ⟨files, []⟩
            unfold Build.run at done
            rw [EStateM.run_bind] at done
            cases read : (Build.loadInput registry options).run ⟨files, []⟩ with
            | error g w =>
              rw [read] at done kept
              cases done
              have unchanged : after.files = files := kept
              dsimp only
              rw [unchanged]
              exact .early asked (.input loaded configured read)
            | ok ts w =>
              rw [read] at done
              exact .stopped asked loaded configured read done

/-- Where the input is read, nothing failed before. -/
theorem not_failsEarly {sources : Settings.Readers}
    (loaded : Settings.load files environment config none sources = .ok settings)
    (configured : initialSetup.configure settings.logLevel (styleOf settings) = .ok setup)
    (read : (Build.loadInput registry options).run ⟨files, []⟩ = .ok ts w) :
    ¬FailsEarly sources registry environment options config files := by
  intro fails
  cases fails with
  | settings failed => cases loaded.symm.trans failed
  | logging loaded' failed =>
    cases loaded.symm.trans loaded'
    cases configured.symm.trans failed
  | input _ _ failed => cases read.symm.trans failed

/-- A run of a build that fails early has status one and changes nothing. -/
theorem course_of_early (asked : Request.ofTokens files tokens readers.options = .ok (.build options config))
    (fails : FailsEarly readers.settings registry environment options config files)
    (course : Course readers registry environment tokens files status after) : status = 1 ∧ after = files := by
  cases course with
  | refused other => cases asked.symm.trans other
  | answered other answer =>
    rcases answer with rfl | rfl
    · cases asked.symm.trans other
    · cases asked.symm.trans other
  | early => exact ⟨rfl, rfl⟩
  | stopped other loaded configured read =>
    cases asked.symm.trans other
    exact absurd fails (not_failsEarly loaded configured read)
  | built other loaded configured done =>
    cases asked.symm.trans other
    obtain ⟨ts, w, read, -⟩ := Session.bind_ok done
    exact absurd fails (not_failsEarly loaded configured read)

/-- A build that is complete: what it was asked for and with which settings, and that each of its files is
there to be read. -/
structure Completed (readers : Readers) (registry : Registry) (environment : Settings.Environment)
    (tokens : List String) (files after : FileTree) (options : Build.Options) (config : Option Path)
    (settings : Settings) (outcome : Build.Outcome) (w : Workspace) : Prop where
  asked : Request.ofTokens files tokens readers.options = .ok (.build options config)
  loaded : Settings.load files environment config none readers.settings = .ok settings
  done : (Build.run registry options settings).run ⟨files, []⟩ = .ok outcome w
  left : after = w.files
  stored : ∀ path ∈ outcome.territoryFiles ++ [outcome.mappingFile], ∃ bytes,
    after.read path.toString = .ok bytes

/-- A build that failed while it made and stored its files, after its input was read. -/
structure FailsLate (readers : Settings.Readers) (registry : Registry) (environment : Settings.Environment)
    (options : Build.Options) (config : Option Path) (files after : FileTree) (settings : Settings)
    (ts : List Territory) (w : Workspace) (f : Failure) (w' : Workspace) : Prop where
  loaded : Settings.load files environment config none readers = .ok settings
  read : (Build.loadInput registry options).run ⟨files, []⟩ = .ok ts w
  failed : (Build.fromTerritories ts options settings).run w = .error f w'
  left : after = w'.files

/-- What the status of a run tells of it, and of the files that it leaves. -/
structure StatusTells (readers : Readers) (registry : Registry) (environment : Settings.Environment)
    (tokens : List String) (files : FileTree) (status : Nat) (after : FileTree) : Prop where
  known : status = 0 ∨ status = 1 ∨ status = 2
  /-- One token that is neither a flag nor of the form of an option with a value is enough for two. -/
  malformed : (∃ token ∈ tokens, token ≠ "--help" ∧ token ≠ "--version" ∧ ¬HasForm token) → status = 2
  refused : status = 2 → after = files
  answered : status = 0 → "--help" ∈ tokens ∨ "--version" ∈ tokens → after = files
  built : status = 0 → "--help" ∉ tokens → "--version" ∉ tokens → ∃ options config settings outcome w,
    Completed readers registry environment tokens files after options config settings outcome w
  /-- A build that fails before it stores anything has status one and changes nothing. -/
  early : ∀ options config, Request.ofTokens files tokens readers.options = .ok (.build options config) →
    FailsEarly readers.settings registry environment options config files → status = 1 ∧ after = files
  failed : status = 1 → ∃ options config,
    Request.ofTokens files tokens readers.options = .ok (.build options config) ∧
      (FailsEarly readers.settings registry environment options config files ∨
        ∃ settings ts w f w',
          FailsLate readers.settings registry environment options config files after settings ts w f w')

/-- The status of a run is zero, one or two, and tells what was done. -/
theorem status_tells_what_was_done (readers : Readers) (rules : OptionRules readers.options) (registry : Registry)
    (environment : Settings.Environment) (tokens : List String) (files : FileTree) :
    StatusTells readers registry environment tokens files
      (run registry environment tokens files readers).1.status
      (run registry environment tokens files readers).2 := by
  have course := run_course readers registry environment tokens files
  generalize (run registry environment tokens files readers).1.status = status at course ⊢
  generalize (run registry environment tokens files readers).2 = after at course ⊢
  constructor
  case known => cases course <;> simp
  case malformed =>
    rintro ⟨token, member, help, version, malformed⟩
    obtain ⟨fault, refused⟩ := ofTokens_of_malformed files member help version malformed readers.options
    cases course with
    | refused => rfl
    | answered asked => cases refused.symm.trans asked
    | early asked => cases refused.symm.trans asked
    | stopped asked => cases refused.symm.trans asked
    | built asked => cases refused.symm.trans asked
  case refused =>
    intro two
    cases course with
    | refused => rfl
    | _ => cases two
  case answered =>
    intro zero flagged
    cases course with
    | refused | answered | early => rfl
    | stopped => cases zero
    | built asked =>
      have answer := rules.flagged _ _ _ (ofTokens_eq_ok asked) flagged
      rcases answer with answer | answer <;> cases answer
  case built =>
    intro zero help version
    cases course with
    | answered asked answer =>
      obtain ⟨options, config, rfl⟩ := rules.plain _ _ _ (ofTokens_eq_ok asked) help version
      rcases answer with answer | answer <;> cases answer
    | built asked loaded configured done =>
      obtain ⟨ts, w, -, stored⟩ := Session.bind_ok done
      obtain ⟨rfl, ps, made, leaves⟩ := Build.fromTerritories_leaves stored
      exact ⟨_, _, _, _, _, asked, loaded, done, rfl, fun path member => leaves.readable member⟩
    | _ => cases zero
  case early => exact fun options config asked fails => course_of_early asked fails course
  case failed =>
    intro one
    cases course with
    | early asked fails => exact ⟨_, _, asked, .inl fails⟩
    | stopped asked loaded configured read failed =>
      exact ⟨_, _, asked, .inr ⟨_, _, _, _, _, loaded, read, failed, rfl⟩⟩
    | _ => cases one

def smallTokens : List String :=
  ["--output-dir=o", "--data-prefix=d/P", "--mapping-class=M", "--copyright=2010", "--bundled=true"]

set_option maxRecDepth 8000 in
private theorem smallTokens_ask : Request.ofTokens ⟨[], []⟩ smallTokens =
    .ok (.build { Build.smallBuild with bundled := true } none) := by
  have legal : smallTokens.find? (!isLegal ·) = none := by decide
  have read : smallTokens.mapM Argument.ofToken = .ok [.value .outputDir "o", .value .dataPrefix "d/P",
      .value .mappingClass "M", .value .copyright "2010", .value .bundled "true"] := by decide
  have given : assignments [.value .outputDir "o", .value .dataPrefix "d/P", .value .mappingClass "M",
      .value .copyright "2010", .value .bundled "true"] = [(.outputDir, "o"), (.dataPrefix, "d/P"),
        (.mappingClass, "M"), (.copyright, "2010"), (.bundled, "true")] := by decide
  have folder : directoryPath ⟨[], []⟩ "o" = .ok ⟨.here, ["o"]⟩ := by decide
  have year : numberOf "2010" = .ok 2010 := by decide
  have bundled : choiceOf "true" = .ok true := by
    have folded : Text.fold "true" = "true" := by
      rw [Text.fold, ← String.toList_inj, String.toList_map]
      decide
    rw [choiceOf, if_pos folded]
  unfold Request.ofTokens Request.ofLegal
  rw [legal, read]
  dsimp only [firstFlag, List.findSome?]
  rw [given]
  simp only [Values.readAll, Values.read, folder, year, bundled, bind, Except.bind, pure, Except.pure]
  rfl

set_option maxRecDepth 8000 in
/-- The command builds from a registry of one region in an empty directory: the status is zero, and the part
of the region and the lookup are there. A word beside a request for help is refused. -/
theorem small_runs_of_the_command : OptionRules Request.ofLegal ∧
    (run (Build.oneEntryRegistry "US") [] smallTokens ⟨[], []⟩).1.status = 0 ∧
    (∃ bytes, (run (Build.oneEntryRegistry "US") [] smallTokens ⟨[], []⟩).2.read "o/d/P_US" = .ok bytes) ∧
    (∃ bytes, (run (Build.oneEntryRegistry "US") [] smallTokens ⟨[], []⟩).2.read "o/M.java" = .ok bytes) ∧
    (run (Build.oneEntryRegistry "US") [] ["--help", "out"] ⟨[], []⟩).1.status = 2 ∧
    (run (Build.oneEntryRegistry "US") [] ["--help", "out"] ⟨[], []⟩).2 = ⟨[], []⟩ := by
  obtain ⟨log, after, runs, ran, -⟩ := Build.oneEntry_builds
  have done := runs.trans ran
  have loaded : Settings.load ⟨[], []⟩ [] none none = .ok {} := by decide
  have configured : initialSetup.configure ({} : Settings).logLevel (styleOf {}) =
      .ok ⟨20, [.stream .plain]⟩ := by decide
  have zero : (run (Build.oneEntryRegistry "US") [] smallTokens ⟨[], []⟩).1.status = 0 := by
    unfold run
    rw [smallTokens_ask]
    dsimp only
    unfold runBuild
    rw [prepare_ready loaded configured]
    dsimp only
    rw [done]
  have built := status_tells_what_was_done {} ofLegal_rules (Build.oneEntryRegistry "US") [] smallTokens ⟨[], []⟩
  obtain ⟨options, config, settings, outcome, w, completed⟩ := built.built zero (by decide) (by decide)
  obtain ⟨rfl, rfl⟩ := Request.build.inj (Except.ok.inj (completed.asked.symm.trans smallTokens_ask))
  obtain rfl := Except.ok.inj (completed.loaded.symm.trans loaded)
  obtain ⟨rfl, rfl⟩ := EStateM.Result.ok.inj (completed.done.symm.trans done)
  have word : ¬HasForm "out" := fun form => absurd ((isAssignment_iff "out").mpr form) (by decide)
  have refused := status_tells_what_was_done {} ofLegal_rules (Build.oneEntryRegistry "US") [] ["--help", "out"]
    ⟨[], []⟩
  have two := refused.malformed ⟨"out", by decide, by decide, by decide, word⟩
  exact ⟨ofLegal_rules, zero, completed.stored ⟨.here, ["o", "d", "P_US"]⟩ (by decide),
    completed.stored ⟨.here, ["o", "M.java"]⟩ (by decide), two, refused.refused two⟩

end NumberingPlan.Command
