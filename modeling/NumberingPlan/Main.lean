import NumberingPlan.Command.Run
import Std.Time.DateTime.Timestamp

/-! The command. What a run may look at is read before it, the run itself is computed, and what it
has made is stored after it. -/
namespace NumberingPlan.Main

/-- The variable of an entry of the environment. -/
def assignment? (entry : String) : Option (String × String) :=
  let (name, rest) := entry.toList.span (· != '=')
  if rest.isEmpty then none else some (String.ofList name, String.ofList (rest.drop 1))

/-- The environment of the process. -/
def environment : IO Settings.Environment := do
  let bytes ← try IO.FS.readBinFile "/proc/self/environ" catch _ => pure .empty
  let text := (Utf8.decode bytes.toList).toOption.getD ""
  return (text.splitOn "\x00").filterMap assignment?

def textOf (place : Storage.Place) : String := "/" ++ String.intercalate "/" place

/-- The names in a directory, if a place is one. -/
def namesIn? (place : Storage.Place) : IO (Option (List String)) := do
  try
    let here ← IO.currentDir
    let entries ← (here / textOf place).readDir
    return some (entries.toList.map (·.fileName))
  catch _ => return none

def nodeAt? (place : Storage.Place) : IO (Option Storage.Node) := do
  if (← namesIn? place).isSome then return some .directory
  try
    let bytes ← IO.FS.readBinFile (textOf place)
    return some (.file bytes.toList)
  catch _ => return none

/-- The place of a path, with double dots followed back. -/
def placeOf (home : Storage.Place) (path : Storage.Path) : Storage.Place :=
  path.names.foldl (fun place name => if name = ".." then place.dropLast else place ++ [name])
    (if path.anchor = .here then home else [])

/-- A tree that also shows what is at a place and on the way to it. -/
def survey (tree : Storage.FileTree) (place : Storage.Place) : IO Storage.FileTree := do
  let mut tree := tree
  for n in List.range place.length do
    let part := place.take (n + 1)
    if (tree.node? part).isNone then
      match ← nodeAt? part with
      | some node => tree := tree.put part node
      | none => pure ()
  return tree

/-- A tree that also shows what a directory holds. -/
def surveyDirectory (tree : Storage.FileTree) (place : Storage.Place) : IO Storage.FileTree := do
  let mut tree ← survey tree place
  for name in (← namesIn? place).getD [] do
    tree ← survey tree (place ++ [name])
  return tree

/-- The values that tokens give to an option. -/
def valuesOf (tokens : List String) (param : Command.Param) : List String :=
  tokens.filterMap fun token =>
    match Command.Argument.ofToken token with
    | .ok (.value p text) => if p = param then some text else none
    | _ => none

/-- What a run may look at: the files that it may read, and the directories that it may write to. -/
def surveyAll (environment : Settings.Environment) (tokens : List String)
    (home : Storage.Place) : IO Storage.FileTree := do
  let place (text : String) : Storage.Place := placeOf home (.ofString text)
  let mut tree ← survey ⟨[], home⟩ home
  tree ← survey tree (placeOf home Settings.defaultFile)
  let file := (Settings.readEnvironment tree environment Settings.defaultFile).toOption.getD []
  for found in [environment.lookup Settings.documentVariable,
      file.lookup Settings.documentVariable] do
    tree ← survey tree (place (found.getD ""))
  for text in valuesOf tokens .inputFile ++ valuesOf tokens .config do
    tree ← survey tree (place text)
  for text in valuesOf tokens .outputDir do
    tree ← surveyDirectory tree (place text)
    for start in valuesOf tokens .dataPrefix do
      tree ← surveyDirectory tree (placeOf home ((Storage.Path.ofString text).child start).parent)
  return tree

/-- Stores what is new in a tree, oldest first. -/
def store (before after : Storage.FileTree) : IO Unit := do
  for (place, node) in after.nodes.reverse do
    if before.node? place != some node then
      match node with
      | .directory => IO.FS.createDirAll (textOf place)
      | .file bytes => IO.FS.writeBinFile (textOf place) ⟨bytes.toArray⟩

/-- The present time. -/
def now : IO Time.Instant := do
  let nanos := (← Std.Time.Timestamp.now).toNanosecondsSinceUnixEpoch.val
  return ⟨nanos / 1000000000, (nanos % 1000000000).toNat / 1000⟩

/-- The registry that comes with the command, which has no entries. -/
def registry : Registry := ⟨[], [], [], []⟩

/-- Prints what a run has to say. In the plain style the report of a failure follows the log. -/
def tell (run : Command.Run) : IO Unit := do
  let time ← now
  let report := (run.failure.map Failure.report).getD ""
  let style := (run.setup.map (·.2)).getD .plain
  let stamp := match style with
    | .plain => time.stamp
    | .json => time.text.toOption.getD ""
  for line in run.logLines stamp report do
    IO.eprintln line
  IO.eprint run.errorText
  IO.print run.output

/-- Runs the command in the current directory. -/
def perform (tokens : List String) : IO UInt32 := do
  let environment ← environment
  let cwd := (← IO.currentDir).toString
  let home := (Storage.Path.ofString cwd).names
  let before ← surveyAll environment tokens home
  let (run, after) := Command.run registry environment tokens before
  store before after
  tell run
  return run.status.toUInt32

end NumberingPlan.Main

/-- Runs the command; a file that cannot be stored is an error too. -/
def main (tokens : List String) : IO UInt32 := do
  try NumberingPlan.Main.perform tokens
  catch e =>
    IO.eprintln ("Error: " ++ toString e)
    return 1
