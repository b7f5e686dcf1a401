import NumberingPlan.Text.Similarity

/-! Arguments of the command. Every argument has the form `--name=value`, but for two flags that
stand alone. -/
namespace NumberingPlan.Command

/-- The options that take a value. -/
inductive Param where
  | inputFile
  | outputDir
  | dataPrefix
  | mappingClass
  | copyright
  | liteBuild
  | bundled
  | config
  deriving DecidableEq, Repr

/-- The options in the order that help lists them. -/
def params : List Param :=
  [.inputFile, .outputDir, .dataPrefix, .mappingClass, .copyright, .liteBuild, .bundled, .config]

def Param.name : Param → String
  | inputFile => "--input-file"
  | outputDir => "--output-dir"
  | dataPrefix => "--data-prefix"
  | mappingClass => "--mapping-class"
  | copyright => "--copyright"
  | liteBuild => "--lite-build"
  | bundled => "--bundled"
  | config => "--config"

inductive Flag where
  | help
  | version
  deriving DecidableEq, Repr

def flags : List Flag := [.version, .help]

def Flag.name : Flag → String
  | help => "--help"
  | version => "--version"

/-- The names of all options and flags. -/
def names : List String := params.map Param.name ++ flags.map Flag.name

inductive Argument where
  | value (param : Param) (text : String)
  | flag (flag : Flag)
  deriving DecidableEq, Repr

/-- Why an argument cannot be read. -/
inductive ArgumentFault where
  | unknown (name : String)
  | valueForFlag (flag : Flag)
  deriving DecidableEq, Repr

/-- Whether a token has the form of an option with a value: two dashes, a name of at least one
character, the sign of equality and any value, all on one line. -/
def isAssignment (token : List Char) : Bool :=
  match token with
  | '-' :: '-' :: c :: rest => c != '\n' && rest.contains '=' && !rest.contains '\n'
  | _ => false

/-- Whether a token may be an argument at all. -/
def isLegal (token : String) : Bool :=
  flags.any (·.name == token) || isAssignment token.toList

/-- The argument of a token: a flag, or an option up to the first sign of equality and its value. -/
def Argument.ofToken (token : String) : Except ArgumentFault Argument :=
  let (left, right) := token.toList.span (· != '=')
  let name := String.ofList left
  match params.find? (·.name == name), flags.find? (·.name == name) with
  | some param, _ => .ok (.value param (String.ofList (right.drop 1)))
  | none, some f => if right.isEmpty then .ok (.flag f) else .error (.valueForFlag f)
  | none, none => .error (.unknown name)

end NumberingPlan.Command
