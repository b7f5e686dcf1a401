import NumberingPlan.Build
import NumberingPlan.Command.Usage

/-! What the arguments of the command ask for. -/
namespace NumberingPlan.Command

inductive Request where
  | help
  | version
  | build (options : Build.Options) (config : Option Storage.Path)
  deriving Repr

/-- The values of options as far as they are read. -/
structure Values where
  inputFile : Option Storage.Path := none
  outputDir : Option Storage.Path := none
  dataPrefix : Option String := none
  mappingClass : Option String := none
  copyright : Option Int := none
  lite : Bool := false
  bundled : Bool := false
  config : Option Storage.Path := none
  deriving Repr

/-- A path to a file. There may be nothing, unless the file has to exist, but no directory. -/
def filePath (files : Storage.FileTree) (mustExist : Bool) (text : String) :
    Except ValueProblem Storage.Path :=
  match files.look text with
  | .ok .directory => .error (.fileIsDirectory text)
  | .ok (.file _) => .ok (.ofString text)
  | .error _ => if mustExist then .error (.missingFile text) else .ok (.ofString text)

/-- A path to a directory. There may be nothing, but no file. -/
def directoryPath (files : Storage.FileTree) (text : String) : Except ValueProblem Storage.Path :=
  match files.look text with
  | .ok (.file _) => .error (.directoryIsFile text)
  | _ => .ok (.ofString text)

def numberOf (text : String) : Except ValueProblem Int :=
  match Text.integer? text with
  | some n => .ok n
  | none => .error (.notNumber text)

/-- One of the two words for truth values. -/
def choiceOf (text : String) : Except ValueProblem Bool :=
  if Text.fold text = "true" then .ok true
  else if Text.fold text = "false" then .ok false
  else .error (.notChoice text)

/-- Reads the value of an option. -/
def Values.read (files : Storage.FileTree) (v : Values) (param : Param) (text : String) :
    Except ValueProblem Values :=
  match param with
  | .inputFile => do return { v with inputFile := some (← filePath files false text) }
  | .outputDir => do return { v with outputDir := some (← directoryPath files text) }
  | .dataPrefix => return { v with dataPrefix := some text }
  | .mappingClass => return { v with mappingClass := some text }
  | .copyright => do return { v with copyright := some (← numberOf text) }
  | .liteBuild => do return { v with lite := ← choiceOf text }
  | .bundled => do return { v with bundled := ← choiceOf text }
  | .config => do return { v with config := some (← filePath files true text) }

/-- The values among arguments, each option where it is first given and with what it is last
given. -/
def assignments (arguments : List Argument) : List (Param × String) :=
  let given := arguments.filterMap fun
    | .value param text => some (param, text)
    | .flag _ => none
  (given.map (·.1)).eraseDups.filterMap fun param =>
    (given.reverse.lookup param).map fun text => (param, text)

/-- Reads values one after another. -/
def Values.readAll (files : Storage.FileTree) (v : Values) :
    List (Param × String) → Except UsageFault Values
  | [] => .ok v
  | (param, text) :: rest =>
    match v.read files param text with
    | .ok v => v.readAll files rest
    | .error problem => .error (.badValue param problem)

/-- The build that values ask for. -/
def Values.request (v : Values) : Except UsageFault Request := do
  let required {α : Type} (param : Param) (value : Option α) : Except UsageFault α :=
    match value with
    | some value => .ok value
    | none => .error (.missing param)
  let outputDir ← required .outputDir v.outputDir
  let dataPrefix ← required .dataPrefix v.dataPrefix
  let mappingClass ← required .mappingClass v.mappingClass
  let copyright ← required .copyright v.copyright
  if v.inputFile.isNone && !v.bundled then throw (.missing .inputFile)
  return .build ⟨v.inputFile, outputDir, dataPrefix, mappingClass, copyright, v.lite, v.bundled⟩
    v.config

/-- The first flag among arguments. -/
def firstFlag (arguments : List Argument) : Option Flag :=
  arguments.findSome? fun
    | .flag flag => some flag
    | .value .. => none

/-- Reads tokens that are legal, given the files that their paths may name. -/
abbrev OptionReader := Storage.FileTree → List String → Except UsageFault Request

namespace Request

/-- The request of legal tokens. A flag wins over all values, which are then not looked at. -/
def ofLegal : OptionReader := fun files tokens =>
  match tokens.mapM Argument.ofToken with
  | .error fault => .error (.argument fault)
  | .ok arguments =>
    match firstFlag arguments with
    | some .help => .ok .help
    | some .version => .ok .version
    | none => do (← Values.readAll files {} (assignments arguments)).request

/-- The request that tokens make. The form of all of them is looked at before any is read. -/
def ofTokens (files : Storage.FileTree) (tokens : List String) (read : OptionReader := ofLegal) :
    Except UsageFault Request :=
  match tokens.find? (!isLegal ·) with
  | some token => .error (.illegal token)
  | none => read files tokens

end Request

end NumberingPlan.Command
