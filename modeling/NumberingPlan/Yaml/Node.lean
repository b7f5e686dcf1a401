import NumberingPlan.Yaml.Resolution
import NumberingPlan.Yaml.Token

/-! Nodes, the trees that documents are. Every node has a tag. An alias stays a name, and the nodes
that have a name are listed beside the tree, so a document is never larger than its text. -/
namespace NumberingPlan.Yaml

inductive Node where
  | scalar (tag : Tag) (text : LooseText)
  | list (tag : Tag) (items : List Node)
  | map (tag : Tag) (pairs : List (Node × Node))
  | alias (name : String)

/-- A document: its root, and the nodes that have a name. -/
structure Document where
  root : Node
  named : List (String × Node)

/-- The state of the reading of nodes: the tokens that are left, what handles of tags stand for,
the names given so far, and the nodes that have one. -/
structure Compose where
  tokens : List Token
  handles : List (String × String)
  names : List String
  named : List (String × Node)

/-- Reads nodes from tokens. -/
abbrev Composing := StateT Compose (Except Fault)

namespace Composing

/-- The next token, which stays. -/
def peek : Composing Token := do return (← get).tokens.head?.getD .streamEnd

/-- Goes past the next token. -/
def drop : Composing Unit := modify fun c => { c with tokens := c.tokens.tail }

/-- A node of which nothing is written. -/
def empty : Node := .scalar .null ""

def fullTag (handle : Option String) (suffix : String) : Composing String := do
  match handle with
  | none => return suffix
  | some handle =>
    match (← get).handles.lookup handle with
    | some start => return start ++ suffix
    | none => throw .malformed

/-- The name and the tag before a node, in either order. -/
def properties : Composing (Option String × Option String) := do
  match ← peek with
  | .anchor name =>
    drop
    match ← peek with
    | .tag handle suffix =>
      drop
      return (some name, some (← fullTag handle suffix))
    | _ => return (some name, none)
  | .tag handle suffix =>
    drop
    let name ← match ← peek with
      | .anchor name => do
        drop
        pure (some name)
      | _ => pure none
    return (name, some (← fullTag handle suffix))
  | _ => return (none, none)

/-- Gives a name, which may not be given yet. -/
def giveName (name : Option String) : Composing Unit := do
  match name with
  | none => return
  | some name =>
    let c ← get
    if c.names.contains name then throw .malformed
    set { c with names := name :: c.names }

/-- Lists a node under its name. -/
def listed (name : Option String) (node : Node) : Composing Node := do
  match name with
  | none => return node
  | some name =>
    modify fun c => { c with named := (name, node) :: c.named }
    return node

/-- The tag of a scalar: the given one, or the one that its text has, if it is plain or its tag
says no more than that it has one. -/
def scalarTag (given : Option String) (plain : Bool) (text : String) : Tag :=
  match given with
  | some "!" => Tag.ofPlain text
  | some tag => Tag.ofString tag
  | none => if plain then Tag.ofPlain text else .str

/-- The tag of a collection: the given one, or that of its kind. -/
def collectionTag (given : Option String) (kind : Tag) : Tag :=
  match given with
  | none | some "!" => kind
  | some tag => Tag.ofString tag

/-- Whether nothing is written of an item or a value in a block. -/
def endsInBlock : Token → Bool
  | .key | .value | .blockEnd => true
  | _ => false

mutual

/-- Reads a node. Blocks may begin in it if `block` is set, and items of a block without an opening
if `bare` is. -/
def node : Nat → Bool → Bool → Composing Node
  | 0, _, _ => throw .malformed
  | fuel + 1, block, bare => do
    match ← peek with
    | .alias name =>
      drop
      if (← get).names.contains name then return .alias name else throw .malformed
    | _ =>
      let (name, tag) ← properties
      giveName name
      match ← peek with
      | .scalar plain text =>
        drop
        listed name (.scalar (scalarTag tag plain text.shown) text)
      | .openSequence =>
        drop
        listed name (.list (collectionTag tag .seq) (← flowItems fuel true []))
      | .openMapping =>
        drop
        listed name (.map (collectionTag tag .map) (← flowPairs fuel true []))
      | .entry =>
        if bare then listed name (.list (collectionTag tag .seq) (← bareItems fuel []))
        else if name.isSome || tag.isSome then
          listed name (.scalar (scalarTag tag true "") "")
        else throw .malformed
      | .blockSequence =>
        if block then
          drop
          listed name (.list (collectionTag tag .seq) (← blockItems fuel []))
        else if name.isSome || tag.isSome then
          listed name (.scalar (scalarTag tag true "") "")
        else throw .malformed
      | .blockMapping =>
        if block then
          drop
          listed name (.map (collectionTag tag .map) (← blockPairs fuel []))
        else if name.isSome || tag.isSome then
          listed name (.scalar (scalarTag tag true "") "")
        else throw .malformed
      | _ =>
        if name.isSome || tag.isSome then listed name (.scalar (scalarTag tag true "") "")
        else throw .malformed

/-- Reads the items of a block up to its end. Those read before come last first. -/
def blockItems : Nat → List Node → Composing (List Node)
  | 0, _ => throw .malformed
  | fuel + 1, done => do
    match ← peek with
    | .entry =>
      drop
      match ← peek with
      | .entry | .blockEnd => blockItems fuel (empty :: done)
      | _ => blockItems fuel ((← node fuel true false) :: done)
    | .blockEnd =>
      drop
      return done.reverse
    | _ => throw .malformed

/-- Reads the items of a block that has no opening, and so no end either. -/
def bareItems : Nat → List Node → Composing (List Node)
  | 0, _ => throw .malformed
  | fuel + 1, done => do
    match ← peek with
    | .entry =>
      drop
      let next ← peek
      if next == .entry || endsInBlock next then bareItems fuel (empty :: done)
      else bareItems fuel ((← node fuel true false) :: done)
    | _ => return done.reverse

/-- Reads the pairs of a block up to its end. -/
def blockPairs : Nat → List (Node × Node) → Composing (List (Node × Node))
  | 0, _ => throw .malformed
  | fuel + 1, done => do
    match ← peek with
    | .key =>
      drop
      let key ← if endsInBlock (← peek) then pure empty else node fuel true true
      let value ← match ← peek with
        | .value => do
          drop
          if endsInBlock (← peek) then pure empty else node fuel true true
        | _ => pure empty
      blockPairs fuel ((key, value) :: done)
    | .blockEnd =>
      drop
      return done.reverse
    | _ => throw .malformed

/-- Reads the items between brackets. A pair among them is a mapping of its own. -/
def flowItems : Nat → Bool → List Node → Composing (List Node)
  | 0, _, _ => throw .malformed
  | fuel + 1, first, done => do
    if !first && (← peek) == .flowEntry then drop
    else if !first && (← peek) != .closeSequence then throw .malformed
    match ← peek with
    | .closeSequence =>
      drop
      return done.reverse
    | .key =>
      drop
      let ends (t : Token) : Bool := t == .flowEntry || t == .closeSequence
      let next ← peek
      let key ← if next == .value || ends next then pure empty else node fuel false false
      let value ← match ← peek with
        | .value => do
          drop
          if ends (← peek) then pure empty else node fuel false false
        | _ => pure empty
      flowItems fuel false (.map .map [(key, value)] :: done)
    | _ => flowItems fuel false ((← node fuel false false) :: done)

/-- Reads the pairs between braces. -/
def flowPairs : Nat → Bool → List (Node × Node) → Composing (List (Node × Node))
  | 0, _, _ => throw .malformed
  | fuel + 1, first, done => do
    if !first && (← peek) == .flowEntry then drop
    else if !first && (← peek) != .closeMapping then throw .malformed
    match ← peek with
    | .closeMapping =>
      drop
      return done.reverse
    | .key =>
      drop
      let ends (t : Token) : Bool := t == .flowEntry || t == .closeMapping
      let next ← peek
      let key ← if next == .value || ends next then pure empty else node fuel false false
      let value ← match ← peek with
        | .value => do
          drop
          if ends (← peek) then pure empty else node fuel false false
        | _ => pure empty
      flowPairs fuel false ((key, value) :: done)
    | _ => flowPairs fuel false ((← node fuel false false, empty) :: done)

end

/-- The handles that need no directive. -/
def knownHandles : List (String × String) := [("!", "!"), ("!!", "tag:yaml.org,2002:")]

/-- Reads directives. A version is given once and is the first, and a handle is given once. -/
def directives : Nat → Bool → List (String × String) → Composing (List (String × String))
  | 0, _, _ => throw .malformed
  | fuel + 1, versioned, handles => do
    match ← peek with
    | .directive "YAML" (major :: _) =>
      drop
      if versioned || Text.integer? major != some 1 then throw .malformed
      directives fuel true handles
    | .directive "TAG" [handle, start] =>
      drop
      if (handles.lookup handle).isSome then throw .malformed
      directives fuel versioned ((handle, start) :: handles)
    | .directive _ _ =>
      drop
      directives fuel versioned handles
    | _ => return handles ++ knownHandles

/-- Goes past marks that end a document. -/
def dropEnds : Nat → Composing Unit
  | 0 => return
  | fuel + 1 => do
    match ← peek with
    | .documentEnd =>
      drop
      dropEnds fuel
    | _ => return

/-- Reads the root of the only document, if there is one. -/
def document (fuel : Nat) : Composing (Option Node) := do
  let root ← match ← peek with
    | .streamEnd => return none
    | .directive .. | .documentStart => do
      let handles ← directives fuel false []
      modify fun c => { c with handles := handles }
      if (← peek) != .documentStart then throw .malformed
      drop
      match ← peek with
      | .directive .. | .documentStart | .documentEnd | .streamEnd => pure empty
      | _ => node fuel true false
    | _ => node fuel true false
  dropEnds fuel
  if (← peek) == .streamEnd then return some root else throw .malformed

end Composing

/-- The document of a text, if there is one. -/
def compose (text : List Char) : Except Fault (Option Document) := do
  let tokens ← tokens text
  let (root, c) ← (Composing.document (4 * tokens.length + 4)).run
    ⟨tokens, Composing.knownHandles, [], []⟩
  return root.map fun root => ⟨root, c.named⟩

end NumberingPlan.Yaml
