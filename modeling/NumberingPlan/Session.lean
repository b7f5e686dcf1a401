import NumberingPlan.Failure
import NumberingPlan.Logging.Entry

/-! A session: files and a log that operations change one after another. What an operation has done
before it fails stays done. -/
namespace NumberingPlan

/-- The files and the log so far, oldest entry first. -/
structure Workspace where
  files : Storage.FileTree
  log : List Logging.Entry
  deriving Repr

/-- Operations in a workspace. -/
abbrev Session := EStateM Failure Workspace

namespace Session

def log (entry : Logging.Entry) : Session Unit :=
  modify fun w => { w with log := w.log ++ [entry] }

/-- An access that changes nothing. -/
def look {α : Type} (access : Storage.FileTree → Except Storage.Fault α) : Session α := do
  match access (← get).files with
  | .ok value => return value
  | .error fault => throw (.access fault)

/-- The bytes of a file. -/
def bytesAt (path : Storage.Path) : Session (List UInt8) := look (·.read path.toString)

/-- Makes a file hold given bytes. -/
def store (path : Storage.Path) (bytes : List UInt8) : Session Unit := do
  let w ← get
  match w.files.write path.toString bytes with
  | .ok files => set { w with files := files }
  | .error fault => throw (.access fault)

/-- Makes a directory and those on the way to it, unless they are there. -/
def makeDirectories (path : Storage.Path) : Session Unit := do
  let w ← get
  match w.files.makeDirectories path with
  | (files, none) => set { w with files := files }
  | (files, some fault) =>
    set { w with files := files }
    throw (.access fault)

/-- The value of a computation that may fail. -/
def lift {ε α : Type} (failure : ε → Failure) : Except ε α → Session α
  | .ok value => return value
  | .error e => throw (failure e)

end Session

end NumberingPlan
