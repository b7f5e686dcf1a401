import NumberingPlan.Settings.Basic
import NumberingPlan.Settings.Environment
import NumberingPlan.Storage.FileTree
import NumberingPlan.Text.LineEnd

/-! Loading settings. The environment wins over the environment file, that over the document, and
that over the defaults, each field for itself. How the two texts are read and what a field takes is left
to readers. -/
namespace NumberingPlan.Settings

/-- Why settings cannot be loaded. -/
inductive Fault where
  | access (fault : Storage.Fault)
  | notText (malformed : Utf8.Malformed)
  | badDocument (fault : Yaml.Fault)
  | invalid (problems : List (Field × Problem))
  deriving DecidableEq, Repr

/-- The readers of a document and of an environment file, and the checks of the fields. A document
whose root is no mapping has no values to give. -/
structure Readers where
  document : List Char → Except Yaml.Fault (Option Given) := Yaml.load
  environment : Environment → List Char → Environment := parseEnvironment
  check : FieldCheck := Field.check

def documentVariable : String := "PHONEMETA_CONFIG"

/-- The values that an environment sets. -/
def givenBy (environment : Environment) : Given :=
  fields.filterMap fun field =>
    (environment.lookup field.variable).map fun value => (field.name, .text value)

/-- The values of three sources, the one that wins first. -/
def overlay (environment file : Environment) (document : Given) : Given :=
  givenBy environment ++ givenBy file ++ document

/-- The first text that is there and not empty. -/
def firstNonempty (a b : Option String) : Option String :=
  match a with
  | some s => if s.isEmpty then b.filter (!·.isEmpty) else some s
  | none => b.filter (!·.isEmpty)

/-- Where the document is: the given path, or the one that the environment names, or the one that
the environment file names. -/
def documentPath (given : Option Storage.Path) (environment file : Environment) :
    Option Storage.Path :=
  match given with
  | some path => some path
  | none =>
    (firstNonempty (environment.lookup documentVariable) (file.lookup documentVariable)).map
      Storage.Path.ofString

def readText (tree : Storage.FileTree) (path : Storage.Path) : Except Fault (List Char) :=
  match tree.read path.toString with
  | .error fault => .error (.access fault)
  | .ok bytes =>
    match Utf8.decode bytes with
    | .ok text => .ok (Text.unifyLineEnds text.toList)
    | .error malformed => .error (.notText malformed)

/-- Whether a path names something. -/
def isThere (tree : Storage.FileTree) (path : Storage.Path) : Except Fault Bool :=
  match tree.exists? path.toString with
  | .ok b => .ok b
  | .error fault => .error (.access fault)

/-- The values of the environment file. A path that names nothing, or a directory, has none. -/
def readEnvironment (tree : Storage.FileTree) (environment : Environment)
    (path : Storage.Path) (readers : Readers := {}) : Except Fault Environment := do
  if !(← isThere tree path) || tree.isDirectory path.toString then return []
  return readers.environment environment (← readText tree path)

/-- The values of the document, a later one of a name before an earlier one. A path that names
nothing has none. -/
def readDocument (tree : Storage.FileTree) (path : Option Storage.Path)
    (readers : Readers := {}) : Except Fault Given := do
  match path with
  | none => return []
  | some path =>
    if !(← isThere tree path) then return []
    match readers.document (← readText tree path) with
    | .ok values => return (values.getD []).reverse
    | .error fault => throw (.badDocument fault)

/-- The environment file that is read if none is given. -/
def defaultFile : Storage.Path := ⟨.here, [".env"]⟩

def load (tree : Storage.FileTree) (environment : Environment)
    (documentGiven fileGiven : Option Storage.Path) (readers : Readers := {}) :
    Except Fault Settings := do
  let file ← readEnvironment tree environment (fileGiven.getD defaultFile) readers
  let document ← readDocument tree (documentPath documentGiven environment file) readers
  match ofGiven (overlay environment file document) readers.check with
  | .ok settings => return settings
  | .error problems => throw (.invalid problems)

end NumberingPlan.Settings
