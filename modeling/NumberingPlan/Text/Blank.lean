import NumberingPlan.Text.CodePoints

/-! Blank characters: the white space that numbers and settings may be surrounded by. The class
holds Unicode white space and the four information separators U+001C to U+001F. -/
namespace NumberingPlan.Text

/-- The code points of the class. -/
def blanks : CodePoints :=
  [(0x9, 0xD), (0x1C, 0x20), (0x85, 0x85), (0xA0, 0xA0), (0x1680, 0x1680), (0x2000, 0x200A),
    (0x2028, 0x2029), (0x202F, 0x202F), (0x205F, 0x205F), (0x3000, 0x3000)]

/-- Whether a character is blank. -/
def isBlank (c : Char) : Bool := blanks.has c.toNat

/-- A blank that does not end a line. -/
def isInlineBlank (c : Char) : Bool := isBlank c && c != '\n' && c != '\r'

/-- Drops blanks from the front. -/
def trimStart (text : List Char) : List Char := text.dropWhile isBlank

def trimEnd (text : List Char) : List Char := (text.reverse.dropWhile isBlank).reverse

/-- Drops blanks from both ends. -/
def trim (text : List Char) : List Char := trimEnd (trimStart text)

/-- Drops every blank, wherever it stands. -/
def squeeze (text : String) : String := String.ofList (text.toList.filter fun c => !isBlank c)

end NumberingPlan.Text
