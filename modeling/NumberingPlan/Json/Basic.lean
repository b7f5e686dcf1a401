import NumberingPlan.Decimal.Binary64

/-! JSON values. Whole numbers have no bound, other numbers are doubles, and an object keeps its
fields in order with every key once. -/
namespace NumberingPlan

/-- A JSON value. -/
inductive Json where
  | null
  | bool (b : Bool)
  | int (n : Int)
  | float (x : Binary64)
  | str (s : String)
  | arr (items : List Json)
  | obj (fields : List (String × Json))
  deriving Repr

namespace Json

/-- Sets a field: in place if the key is there, else at the end. -/
def setField (fields : List (String × Json)) (key : String) (value : Json) :
    List (String × Json) :=
  match fields with
  | [] => [(key, value)]
  | (k, v) :: rest =>
    if k == key then (k, value) :: rest else (k, v) :: setField rest key value

def field? (value : Json) (key : String) : Option Json :=
  match value with
  | obj fields => (fields.find? (·.1 == key)).map (·.2)
  | _ => none

/-- Whether a value counts as true where a condition is asked: all but null, false, zero and what
is empty. -/
def truthy : Json → Bool
  | null => false
  | bool b => b
  | int n => n != 0
  | float x => !x.isZero
  | str s => !s.isEmpty
  | arr items => !items.isEmpty
  | obj fields => !fields.isEmpty

end Json

end NumberingPlan
