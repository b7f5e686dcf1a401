import NumberingPlan.Storage.Path
import NumberingPlan.Text.Quoted
import NumberingPlan.Text.Utf8

/-! A tree of files and directories, and what can be done with it through the text of a path: look,
read, write and make directories. A path is followed name by name, and every name but the last has
to be a directory. -/
namespace NumberingPlan.Storage

/-- Where something is: the names on the way to it from the root. -/
abbrev Place := List String

/-- What is at a place. -/
inductive Node where
  | directory
  | file (bytes : List UInt8)
  deriving DecidableEq, Repr

/-- Why a path cannot be followed or used. -/
inductive Refusal where
  | missing
  | alreadyThere
  | notDirectory
  | isDirectory
  | nameTooLong
  deriving DecidableEq, Repr

def Refusal.number : Refusal → Nat
  | missing => 2
  | alreadyThere => 17
  | notDirectory => 20
  | isDirectory => 21
  | nameTooLong => 36

def Refusal.reason : Refusal → String
  | missing => "No such file or directory"
  | alreadyThere => "File exists"
  | notDirectory => "Not a directory"
  | isDirectory => "Is a directory"
  | nameTooLong => "File name too long"

/-- Why an access fails: a text that is no path, or a path that is refused. -/
inductive Fault where
  | nullByte
  | refused (refusal : Refusal) (path : String)
  deriving DecidableEq, Repr

/-- The wording of a failed access. -/
def Fault.message : Fault → String
  | nullByte => "embedded null byte"
  | refused refusal path =>
    s!"[Errno {refusal.number}] " ++ refusal.reason ++ ": " ++ Text.quoted path

/-- A tree: what is at which place, and the directory that relative paths start from. The root is
always a directory. -/
structure FileTree where
  nodes : List (Place × Node)
  home : Place
  deriving Repr

namespace FileTree

/-- The longest name and the least length that no path may have, in bytes. -/
def maxName : Nat := 255

/-- The least length in bytes that a path may not have. -/
def pathBound : Nat := 4096

/-- What is at a place. -/
def node? (tree : FileTree) (place : Place) : Option Node :=
  if place.isEmpty then some .directory else tree.nodes.lookup place

/-- Puts a node at a place. -/
def put (tree : FileTree) (place : Place) (node : Node) : FileTree :=
  { tree with nodes := (place, node) :: tree.nodes.filter fun entry => entry.1 != place }

/-- Follows names from a directory. The last name may be missing. Empty names and single dots stay
where they are, which has to be a directory. -/
def follow (tree : FileTree) (place : Place) : List String → Except Refusal Place
  | [] => .ok place
  | name :: rest =>
    if name = "" ∨ name = "." then tree.follow place rest
    else if name = ".." then tree.follow place.dropLast rest
    else if maxName < (Utf8.encode name).length then .error .nameTooLong
    else
      let next := place ++ [name]
      if rest.isEmpty then .ok next
      else
        match tree.node? next with
        | some .directory => tree.follow next rest
        | some (.file _) => .error .notDirectory
        | none => .error .missing

/-- The place that the text of a path names. -/
def place (tree : FileTree) (path : String) : Except Fault Place :=
  let refused (r : Refusal) : Except Fault Place := .error (.refused r path)
  let chars := path.toList
  if chars.contains '\x00' then .error .nullByte
  else if path.isEmpty then refused .missing
  else if pathBound ≤ (Utf8.encode path).length then refused .nameTooLong
  else
    let start := if Path.anchorOf chars = .here then tree.home else []
    match tree.follow start ((segments chars).map String.ofList) with
    | .ok place => .ok place
    | .error refusal => refused refusal

/-- What the text of a path names. -/
def look (tree : FileTree) (path : String) : Except Fault Node := do
  match tree.node? (← tree.place path) with
  | some node => return node
  | none => throw (.refused .missing path)

/-- The bytes of a file. -/
def read (tree : FileTree) (path : String) : Except Fault (List UInt8) := do
  match ← tree.look path with
  | .file bytes => return bytes
  | .directory => throw (.refused .isDirectory path)

/-- Makes a file hold given bytes; a file that is not there is made. -/
def write (tree : FileTree) (path : String) (bytes : List UInt8) : Except Fault FileTree := do
  let place ← tree.place path
  match tree.node? place with
  | some .directory => throw (.refused .isDirectory path)
  | _ => return tree.put place (.file bytes)

/-- Makes one directory, whose parent has to be there. -/
def makeDirectory (tree : FileTree) (path : String) : Except Fault FileTree := do
  let place ← tree.place path
  match tree.node? place with
  | some _ => throw (.refused .alreadyThere path)
  | none => return tree.put place .directory

/-- Whether a path names something. A path that is too long is an error, every other fault means
that there is nothing. -/
def exists? (tree : FileTree) (path : String) : Except Fault Bool :=
  match tree.look path with
  | .ok _ => .ok true
  | .error (.refused .nameTooLong path) => .error (.refused .nameTooLong path)
  | .error _ => .ok false

/-- Whether a path names a directory. -/
def isDirectory (tree : FileTree) (path : String) : Bool :=
  match tree.look path with
  | .ok .directory => true
  | _ => false

/-- Makes one directory, unless it is there. -/
def ensureDirectory (tree : FileTree) (path : String) : Except Fault FileTree :=
  match tree.makeDirectory path with
  | .ok tree => .ok tree
  | .error fault => if tree.isDirectory path then .ok tree else .error fault

/-- Makes the directory that names from an anchor lead to, unless it is there; if something on the
way is missing, that is made before. The names come last first. What is made stays, also if making
the rest fails. -/
def makeAll (tree : FileTree) (anchor : Anchor) : List String → FileTree × Option Fault
  | [] =>
    match tree.ensureDirectory (Path.toString ⟨anchor, []⟩) with
    | .ok tree => (tree, none)
    | .error fault => (tree, some fault)
  | name :: outer =>
    let path := Path.toString ⟨anchor, (name :: outer).reverse⟩
    match tree.ensureDirectory path with
    | .ok tree => (tree, none)
    | .error (.refused .missing _) =>
      match tree.makeAll anchor outer with
      | (tree, some fault) => (tree, some fault)
      | (tree, none) =>
        match tree.ensureDirectory path with
        | .ok tree => (tree, none)
        | .error fault => (tree, some fault)
    | .error fault => (tree, some fault)

/-- Makes a directory and those on the way to it, unless they are there. -/
def makeDirectories (tree : FileTree) (path : Path) : FileTree × Option Fault :=
  tree.makeAll path.anchor path.names.reverse

end FileTree

end NumberingPlan.Storage
