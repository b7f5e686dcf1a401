import NumberingPlan.Command.Request

/-! Runs of the command. A run answers a request for help or the version, or loads the settings,
sets the log up and builds; whatever fails is reported and logged. -/
namespace NumberingPlan.Command

/-- What a run leaves: its status, what it prints, how the log was set up if it was, the entries
logged, and the failure if there was one. -/
structure Run where
  status : Nat
  output : String := ""
  errorText : String := ""
  setup : Option (Logging.Setup × Logging.Style) := none
  log : List Logging.Entry := []
  failure : Option Failure := none
  deriving Repr

/-- The log before it is set up. -/
def initialSetup : Logging.Setup := ⟨30, []⟩

/-- The entry that every failure leaves. -/
def failureEntry : Logging.Entry :=
  ⟨.error, "phonemeta.cli", "Metadata generation failed", none, true⟩

def Run.failed (setup : Option (Logging.Setup × Logging.Style)) (log : List Logging.Entry)
    (failure : Failure) : Run where
  status := 1
  errorText := shownError failure.report
  setup := setup
  log := log ++ [failureEntry]
  failure := some failure

/-- What reads the options and the sources of the settings. -/
structure Readers where
  options : OptionReader := Request.ofLegal
  settings : Settings.Readers := {}

/-- Loads the settings and sets the log up. -/
def prepare (environment : Settings.Environment) (config : Option Storage.Path)
    (readers : Settings.Readers) : Session (Settings × Logging.Setup × Logging.Style) := do
  let files := (← get).files
  let settings ← Session.lift .ofSettings (Settings.load files environment config none readers)
  let style := if settings.jsonLogging then .json else .plain
  let setup ← Session.lift .unknownLevel (initialSetup.configure settings.logLevel style)
  return (settings, setup, style)

def runBuild (registry : Registry) (environment : Settings.Environment) (options : Build.Options)
    (config : Option Storage.Path) (files : Storage.FileTree) (readers : Settings.Readers) :
    Run × Storage.FileTree :=
  match (prepare environment config readers).run ⟨files, []⟩ with
  | .error failure w => (.failed none w.log failure, w.files)
  | .ok (settings, setup) w =>
    match (Build.run registry options settings).run w with
    | .error failure w => (.failed (some setup) w.log failure, w.files)
    | .ok _ w =>
      ({ status := 0, output := "Metadata code successfully generated.\n", setup := some setup,
          log := w.log }, w.files)

def run (registry : Registry) (environment : Settings.Environment) (tokens : List String)
    (files : Storage.FileTree) (readers : Readers := {}) : Run × Storage.FileTree :=
  match Request.ofTokens files tokens readers.options with
  | .error fault => ({ status := 2, errorText := fault.text }, files)
  | .ok .help => ({ status := 0, output := helpText }, files)
  | .ok .version => ({ status := 0, output := versionText }, files)
  | .ok (.build options config) =>
    runBuild registry environment options config files readers.settings

/-- The lines that a run writes to the log: of every entry that the level of the log lets pass, in
the style of the log. Without a log that is set up there are none. -/
def Run.logLines (time report : String) (r : Run) : List String :=
  match r.setup with
  | none => []
  | some (setup, style) =>
    (r.log.filter (·.passes setup.level)).map (·.line style time report)

end NumberingPlan.Command
