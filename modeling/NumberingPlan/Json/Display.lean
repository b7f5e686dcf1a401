import NumberingPlan.Json.Basic
import NumberingPlan.Decimal.Shortest
import NumberingPlan.Text.Quoted

/-! Values as messages show them. A text that stands alone is shown as it is; inside a list or an
object it is quoted. -/
namespace NumberingPlan.Json

mutual

/-- A value inside another: texts are quoted. -/
def quotedForm : Json → String
  | null => "None"
  | bool true => "True"
  | bool false => "False"
  | int n => toString n
  | float x => x.text
  | str s => Text.quoted s
  | arr [] => "[]"
  | arr (item :: items) => "[" ++ quotedForm item ++ quotedItems items ++ "]"
  | obj [] => "\x7b\x7d"
  | obj ((key, value) :: fields) =>
    "\x7b" ++ Text.quoted key ++ ": " ++ quotedForm value ++ quotedFields fields ++ "\x7d"

/-- The items after the first. -/
def quotedItems : List Json → String
  | [] => ""
  | item :: items => ", " ++ quotedForm item ++ quotedItems items

/-- The fields after the first. -/
def quotedFields : List (String × Json) → String
  | [] => ""
  | (key, value) :: fields =>
    ", " ++ Text.quoted key ++ ": " ++ quotedForm value ++ quotedFields fields

end

/-- A value on its own: a text is shown as it is. -/
def display : Json → String
  | str s => s
  | value => quotedForm value

/-- Several values in parentheses. -/
def displayTuple : List Json → String
  | [] => "()"
  | [item] => "(" ++ quotedForm item ++ ",)"
  | item :: items => "(" ++ quotedForm item ++ quotedItems items ++ ")"

mutual

/-- Whether no number in a value has too many digits to be shown. -/
def isWritable : Json → Bool
  | int n => Text.isWritable n
  | arr items => areWritable items
  | obj fields => fieldsWritable fields
  | _ => true

def areWritable : List Json → Bool
  | [] => true
  | item :: items => isWritable item && areWritable items

def fieldsWritable : List (String × Json) → Bool
  | [] => true
  | (_, value) :: fields => isWritable value && fieldsWritable fields

end

def kindName : Json → String
  | null => "NoneType"
  | bool _ => "bool"
  | int _ => "int"
  | float _ => "float"
  | str _ => "str"
  | arr _ => "list"
  | obj _ => "dict"

end NumberingPlan.Json
