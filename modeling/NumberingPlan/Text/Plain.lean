/-! Texts without terminal styles. A style is an escape, a bracket, parameters and one letter. -/
namespace NumberingPlan.Text

/-- Whether a character may stand in the parameters of a style. -/
def isStyleParameter (c : Char) : Bool := c.isDigit || c == ';' || c == '?'

/-- What follows a style whose escape and bracket are read, if this is one. -/
def afterStyle? (text : List Char) : Option (List Char) :=
  match text.dropWhile isStyleParameter with
  | c :: rest => if c.isAlpha then some rest else none
  | [] => none

/-- A text without its styles, given a bound on its length. -/
def withoutStylesWithin : Nat → List Char → List Char
  | 0, text => text
  | fuel + 1, '\x1b' :: '[' :: rest =>
    match afterStyle? rest with
    | some rest => withoutStylesWithin fuel rest
    | none => '\x1b' :: withoutStylesWithin fuel ('[' :: rest)
  | fuel + 1, c :: rest => c :: withoutStylesWithin fuel rest
  | _ + 1, [] => []

def withoutStyles (text : String) : String :=
  String.ofList (withoutStylesWithin text.length text.toList)

end NumberingPlan.Text
