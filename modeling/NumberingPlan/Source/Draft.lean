import NumberingPlan.Template

/-! A source file in the making: the names it imports and the text of its class body. Each of the
two grows until it is taken, is taken once, and refuses everything after that. -/
namespace NumberingPlan.Source

/-- Why a step on a draft fails. -/
inductive Fault where
  | importsTaken
  | bodyTaken
  | badTemplate (fault : Template.Fault)
  | noShape (kind : String)
  deriving DecidableEq, Repr

def Fault.message : Fault → String
  | importsTaken => "imports already built"
  | bodyTaken => "body already built"
  | badTemplate fault => fault.message
  | noShape kind => "Unsupported shape: " ++ kind

/-- Import names, strictly ascending. -/
structure Imports where
  names : List String := []
  taken : Bool := false
  deriving Repr

/-- Inserts a name into ascending names; a name that is there stays once. -/
def insertName (name : String) : List String → List String
  | [] => [name]
  | first :: rest =>
    if name < first then name :: first :: rest
    else if name = first then first :: rest
    else first :: insertName name rest

/-- The text of a class body. -/
structure Body where
  text : String := ""
  taken : Bool := false
  deriving Repr

/-- A source file in the making. -/
structure Draft where
  imports : Imports := {}
  body : Body := {}
  deriving Repr

/-- Steps on a draft. A step that fails keeps what went before it. -/
abbrev Drafting := EStateM Fault Draft

def addImport (name : String) : Drafting Unit := do
  let draft ← get
  if draft.imports.taken then throw .importsTaken
  set { draft with imports := { draft.imports with names := insertName name draft.imports.names } }

def addText (text : String) : Drafting Unit := do
  let draft ← get
  if draft.body.taken then throw .bodyTaken
  set { draft with body := { draft.body with text := draft.body.text ++ text } }

/-- Adds a filled template to the body. A template that cannot be filled fails first. -/
def addTemplate (template : String) (arguments : List Json) : Drafting Unit :=
  match Template.format template (.many arguments) with
  | .ok text => addText text
  | .error fault => throw (.badTemplate fault)

def takeImports : Drafting (List String) := do
  let draft ← get
  if draft.imports.taken then throw .importsTaken
  set { draft with imports := { draft.imports with taken := true } }
  return draft.imports.names

def takeBody : Drafting String := do
  let draft ← get
  if draft.body.taken then throw .bodyTaken
  set { draft with body := { draft.body with taken := true } }
  return draft.body.text

end NumberingPlan.Source
