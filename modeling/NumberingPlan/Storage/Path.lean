/-! Paths in their normal form: where a path starts and the names to follow from there. Empty names
and single dots say nothing and are dropped; double dots stay. -/
namespace NumberingPlan.Storage

/-- Where a path starts: at the current directory, at the root, or at the root with the two slashes
that systems may treat apart. -/
inductive Anchor where
  | here
  | root
  | doubleRoot
  deriving DecidableEq, Repr

structure Path where
  anchor : Anchor
  names : List String
  deriving DecidableEq, Repr

/-- The texts between slashes. -/
def segments : List Char → List (List Char)
  | [] => [[]]
  | c :: rest =>
    if c = '/' then [] :: segments rest
    else
      match segments rest with
      | segment :: more => (c :: segment) :: more
      | [] => [[c]]

namespace Path

/-- The mark that a path begins with. -/
def mark : Anchor → String
  | .here => ""
  | .root => "/"
  | .doubleRoot => "//"

/-- Where a text that is a path starts. -/
def anchorOf : List Char → Anchor
  | '/' :: '/' :: '/' :: _ => .root
  | '/' :: '/' :: _ => .doubleRoot
  | '/' :: _ => .root
  | _ => .here

/-- Whether a segment says where to go. -/
def isName (segment : List Char) : Bool := segment != [] && segment != ['.']

def ofString (text : String) : Path :=
  ⟨anchorOf text.toList, ((segments text.toList).filter isName).map String.ofList⟩

/-- The text of a path. The path that goes nowhere is a dot. -/
def toString (p : Path) : String :=
  let text := mark p.anchor ++ String.intercalate "/" p.names
  if text.isEmpty then "." else text

/-- The path without its last name. -/
def parent (p : Path) : Path := ⟨p.anchor, p.names.dropLast⟩

/-- One path after another; a path that starts at the root forgets what went before. -/
def join (p q : Path) : Path :=
  match q.anchor with
  | .here => ⟨p.anchor, p.names ++ q.names⟩
  | _ => q

/-- A path and a text after it. -/
def child (p : Path) (text : String) : Path := p.join (ofString text)

end Path

end NumberingPlan.Storage
