import NumberingPlan.Text.Quoted

/-! Possible lengths in text: items between commas, each a number or a closed range in brackets, as
in `[4-6],9`. -/
namespace NumberingPlan.Lengths

/-- Why a text gives no lengths. -/
inductive Fault where
  | badItem (item value : String)
  | tooMany
  deriving DecidableEq, Repr

def Fault.message : Fault → String
  | badItem item value => "Bad possible length " ++ Text.quoted item ++ " in " ++ Text.quoted value
  | tooMany => "Python int too large to convert to C ssize_t"

/-- The most lengths that one range may stand for. -/
def maxCount : Nat := 9223372036854775807

/-- The texts between commas. -/
def items : List Char → List (List Char)
  | [] => [[]]
  | c :: rest =>
    if c = ',' then [] :: items rest
    else
      match items rest with
      | item :: more => (c :: item) :: more
      | [] => [[c]]

/-- The two numerals of a range in brackets. -/
def range? (item : List Char) : Option (List Char × List Char) :=
  match item with
  | '[' :: rest =>
    let (first, rest) := rest.span Text.isDecimalDigit
    match rest with
    | '-' :: rest =>
      let (last, rest) := rest.span Text.isDecimalDigit
      if first.isEmpty || last.isEmpty || rest != [']'] then none else some (first, last)
    | _ => none
  | _ => none

/-- The numbers from one to another, none if the first is the greater. -/
def upTo (first last : Nat) : List Int :=
  (List.range (last + 1 - first)).map fun i => ((first + i : Nat) : Int)

/-- The lengths of one item of `value`. -/
def ofItem (value : String) (item : List Char) : Except Fault (List Int) :=
  let bare := Text.trim item
  let fault := Fault.badItem (String.ofList bare) value
  match range? bare with
  | some (first, last) =>
    match Text.natural? first, Text.natural? last with
    | some first, some last =>
      if maxCount < last + 1 - first then .error .tooMany else .ok (upTo first last)
    | _, _ => .error fault
  | none =>
    match Text.integer? (String.ofList bare) with
    | some n => .ok [n]
    | none => .error fault

/-- The lengths of a text, item after item. An empty text has none. -/
def parse (value : String) : Except Fault (List Int) :=
  if value.isEmpty then .ok []
  else ((items value.toList).mapM (ofItem value)).map List.flatten

/-- The lengths of a text that may be absent. -/
def parse? (value : Option String) : Except Fault (List Int) := parse (value.getD "")

end NumberingPlan.Lengths
