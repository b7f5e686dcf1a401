import NumberingPlan.Json.Basic
import NumberingPlan.Decimal.Shortest
import NumberingPlan.Text.Numeral

/-! Compact JSON text. Control characters, quotes and backslashes are escaped; all other text is
written as it is, or, in the plain form, as escapes of its UTF-16 units. -/
namespace NumberingPlan.Json

/-- Which characters beyond ASCII are written as they are. -/
inductive Charset where
  | unicode
  | ascii
  deriving DecidableEq, Repr

/-- A UTF-16 unit as an escape. -/
def unitEscape (n : Nat) : List Char := '\\' :: 'u' :: Text.hexDigits 4 n

/-- How one character of a string is written. -/
def escapeChar (charset : Charset) (c : Char) : List Char :=
  if c == '"' then ['\\', '"']
  else if c == '\\' then ['\\', '\\']
  else if c == '\n' then ['\\', 'n']
  else if c == '\r' then ['\\', 'r']
  else if c == '\t' then ['\\', 't']
  else if c == '\x08' then ['\\', 'b']
  else if c == '\x0c' then ['\\', 'f']
  else if c.toNat < 0x20 then unitEscape c.toNat
  else if charset == .unicode || c.toNat < 0x80 then [c]
  else if c.toNat < 0x10000 then unitEscape c.toNat
  else
    let n := c.toNat - 0x10000
    unitEscape (0xD800 + n / 0x400) ++ unitEscape (0xDC00 + n % 0x400)

/-- A string between quotes. -/
def stringText (charset : Charset) (s : String) : List Char :=
  '"' :: (s.toList.flatMap (escapeChar charset) ++ ['"'])

/-- A double as a number; what is not finite has the names that lenient readers take. -/
def floatText : Binary64 → String
  | .notANumber => "NaN"
  | .infinite negative => if negative then "-Infinity" else "Infinity"
  | x => x.text

mutual

/-- The characters of a value. -/
def chars (charset : Charset) : Json → List Char
  | null => "null".toList
  | bool true => "true".toList
  | bool false => "false".toList
  | int n => (toString n).toList
  | float x => (floatText x).toList
  | str s => stringText charset s
  | arr [] => ['[', ']']
  | arr (item :: items) => '[' :: (chars charset item ++ itemChars charset items)
  | obj [] => ['\x7b', '\x7d']
  | obj ((key, value) :: fields) =>
    '\x7b' :: (stringText charset key ++ ':' :: (chars charset value ++ fieldChars charset fields))

/-- The items after the first, and the closing bracket. -/
def itemChars (charset : Charset) : List Json → List Char
  | [] => [']']
  | item :: items => ',' :: (chars charset item ++ itemChars charset items)

/-- The fields after the first, and the closing brace. -/
def fieldChars (charset : Charset) : List (String × Json) → List Char
  | [] => ['\x7d']
  | (key, value) :: fields =>
    ',' :: (stringText charset key ++ ':' ::
      (chars charset value ++ fieldChars charset fields))

end

/-- The text of a value. -/
def render (charset : Charset) (value : Json) : String := String.ofList (chars charset value)

end NumberingPlan.Json
