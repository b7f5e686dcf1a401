import NumberingPlan.Yaml.Node
import NumberingPlan.Yaml.Scalar

/-! Values of documents. Only the values directly below a mapping at the root are of use here; what
lies deeper is looked at for faults, level by level, and otherwise stands for a collection. -/
namespace NumberingPlan.Yaml

/-- A value. A text that has half of a surrogate pair by itself is told apart. -/
inductive Value where
  | null
  | bool (b : Bool)
  | int (n : Int)
  | float (x : Binary64)
  | text (s : String)
  | loose (t : LooseText)
  | bytes (bytes : List UInt8)
  | moment
  | collection
  deriving Repr

/-- The nodes of a document that have a name. -/
abbrev Names := List (String × Node)

/-- The node that an alias stands for; any other node stands for itself. -/
def Names.target (names : Names) (node : Node) : Node :=
  match node with
  | .alias name => (names.lookup name).getD node
  | node => node

/-- The text that a node stands for where a scalar is asked for: its own, or that of the default
value of a mapping. -/
def scalarText (names : Names) : Nat → Node → Except Fault LooseText
  | 0, _ => .error .malformed
  | fuel + 1, node =>
    match node with
    | .scalar _ text => .ok text
    | .map _ pairs =>
      match pairs.find? fun (key, _) =>
          match names.target key with
          | .scalar .value _ => true
          | _ => false with
      | some (_, value) => scalarText names fuel (names.target value)
      | none => .error .malformed
    | _ => .error .malformed

/-- The value of a scalar with a tag. -/
def scalarValue (tag : Tag) (loose : LooseText) : Except Fault Value :=
  let text := loose.shown
  match tag with
  | .null => .ok .null
  | .bool => (booleanOf text).map .bool
  | .int => (integerOf text).map .int
  | .float => (floatOf text).map .float
  | .binary => (bytesOf text).map .bytes
  | .timestamp => (checkTimestamp text).map fun _ => .moment
  | .str => .ok ((loose.string?.map .text).getD (.loose loose))
  | _ => .error .malformed

def Node.tag : Node → Tag
  | .scalar tag _ | .list tag _ | .map tag _ => tag
  | .alias _ => .other

/-- Whether a tag makes a collection, whose parts are looked at later. -/
def Tag.isCollection : Tag → Bool
  | .omap | .pairs | .set | .seq | .map => true
  | _ => false

/-- The value of a node, and the collections in it that are still to be looked at. An alias is
looked at where its name is given. -/
def valueOf (names : Names) (node : Node) : Except Fault (Value × List Node) :=
  let target := names.target node
  let later := match node with
    | .alias _ => []
    | node => [node]
  let tag := target.tag
  if tag.isCollection then .ok (.collection, later)
  else do
    let text ← scalarText names (names.length + 1) target
    return (← scalarValue tag text, [])

/-- The pairs of a mapping after those that it takes over from others. A merged pair comes first, so
that the mapping's own wins, and of several mappings the first wins. `opened` are the names on the
way here, and the mark of a pair says whether it is written out here. -/
def mergedPairs (names : Names) : Nat → List String → List (Node × Node) →
    Except Fault (List (Node × Node × Bool))
  | 0, _, _ => .error .malformed
  | fuel + 1, opened, pairs => do
    let source (node : Node) : Except Fault (List (Node × Node × Bool)) :=
      match node with
      | .alias name =>
        if opened.contains name then .ok []
        else
          match names.lookup name with
          | some (.map _ pairs) =>
            (mergedPairs names fuel (name :: opened) pairs).map fun pairs =>
              pairs.map fun (key, value, _) => (key, value, false)
          | _ => .error .malformed
      | .map _ pairs => mergedPairs names fuel opened pairs
      | _ => .error .malformed
    let merged ← pairs.mapM fun (key, value) =>
      match names.target key with
      | .scalar .merge _ =>
        match value, names.target value with
        | _, .list _ items => do return (← items.mapM source).reverse.flatten
        | value, _ => source value
      | _ => pure []
    let own := pairs.filterMap fun (key, value) =>
      match names.target key with
      | .scalar .merge _ => none
      | .scalar .value text => some (Node.scalar .str text, value, true)
      | _ => some (key, value, true)
    return merged.flatten ++ own

/-- The pairs of a mapping's values, and the collections in it. A collection cannot be a key. -/
def mappingOf (names : Names) (fuel : Nat) (pairs : List (Node × Node)) :
    Except Fault (List (Value × Value) × List Node) := do
  let pairs ← mergedPairs names fuel [] pairs
  let values ← pairs.mapM fun (key, value, here) => do
    let (key, _) ← valueOf names key
    match key with
    | .collection => throw .malformed
    | key =>
      let (value, later) ← valueOf names value
      return ((key, value), if here then later else [])
  return (values.map (·.1), values.flatMap (·.2))

/-- The collections in a list of single pairs. -/
def pairsIn (names : Names) (items : List Node) : Except Fault (List Node) := do
  let later ← items.mapM fun item =>
    match names.target item with
    | .map _ [(key, value)] => do
      let (_, first) ← valueOf names key
      let (_, second) ← valueOf names value
      return first ++ second
    | _ => throw .malformed
  return later.flatten

/-- The collections directly in a collection. Its form has to fit its tag. -/
def collectionsIn (names : Names) (fuel : Nat) (node : Node) : Except Fault (List Node) :=
  match node with
  | .list .seq items => do return ((← items.mapM (valueOf names)).map (·.2)).flatten
  | .list .omap items | .list .pairs items => pairsIn names items
  | .map .map pairs | .map .set pairs => (mappingOf names fuel pairs).map (·.2)
  | _ => .error .malformed

/-- Looks at collections, those in them after those beside them. -/
def lookThrough (names : Names) (fuel : Nat) : Nat → List Node → List Node → Except Fault Unit
  | 0, _, _ => .ok ()
  | _ + 1, [], [] => .ok ()
  | n + 1, [], next => lookThrough names fuel n next.reverse []
  | n + 1, node :: rest, next => do
    let found ← collectionsIn names fuel node
    lookThrough names fuel n rest (found.reverse ++ next)

/-- The texts that are keys of the root mapping, with their values; a later one comes later. There are
none to speak of where the root is no mapping, or nothing. -/
def load (text : List Char) : Except Fault (Option (List (String × Value))) := do
  match ← compose text with
  | none => return none
  | some document =>
    let names := document.named
    let fuel := text.length + 2
    match document.root with
    | .map .map pairs => do
      let (values, later) ← mappingOf names fuel pairs
      lookThrough names fuel (4 * fuel) later []
      return some (values.filterMap fun (key, value) =>
        match key with
        | .text s => some (s, value)
        | _ => none)
    | root => do
      let (_, later) ← valueOf names root
      lookThrough names fuel (4 * fuel) later []
      return none

end NumberingPlan.Yaml
