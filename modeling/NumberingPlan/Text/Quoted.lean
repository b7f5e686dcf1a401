import NumberingPlan.Text.Numeral
import NumberingPlan.Text.Printable

/-! Quoted text, as messages show it: in single quotes, or in double quotes if the text holds a
single quote and no double one. Characters that are not printable are written by number. -/
namespace NumberingPlan.Text

/-- How one character is written between the quotes `mark`. -/
def quoteChar (mark : Char) (c : Char) : List Char :=
  if c == mark || c == '\\' then ['\\', c]
  else if c == '\n' then ['\\', 'n']
  else if c == '\r' then ['\\', 'r']
  else if c == '\t' then ['\\', 't']
  else if isPrintable c then [c]
  else if c.toNat < 0x100 then '\\' :: 'x' :: hexDigits 2 c.toNat
  else if c.toNat < 0x10000 then '\\' :: 'u' :: hexDigits 4 c.toNat
  else '\\' :: 'U' :: hexDigits 8 c.toNat

def quotationMark (text : List Char) : Char :=
  if text.contains '\'' && !text.contains '"' then '"' else '\''

def quoted (text : String) : String :=
  let mark := quotationMark text.toList
  String.ofList (mark :: (text.toList.flatMap (quoteChar mark) ++ [mark]))

end NumberingPlan.Text
