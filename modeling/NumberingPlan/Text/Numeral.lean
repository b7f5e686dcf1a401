import NumberingPlan.Text.Blank
import NumberingPlan.Text.DecimalDigit

/-! Whole numbers in text. Reading takes decimal digits of any script, single underscores between
digits, a sign and blank margins, and refuses more digits than `maxDigits`. Writing is plain
decimal, and has the same limit. -/
namespace NumberingPlan.Text

/-- The most digits that a numeral may have. -/
def maxDigits : Nat := 4300

/-- Whether an integer has few enough digits to be written. -/
def isWritable (n : Int) : Bool := (Nat.toDigits 10 n.natAbs).length ≤ maxDigits

/-- What is said of an integer that has too many digits. -/
def tooManyDigits : String :=
  s!"Exceeds the limit ({maxDigits} digits) for integer string conversion; " ++
    "use sys.set_int_max_str_digits() to increase the limit"

/-- A blank that may stand around a numeral: any blank but the information separators. -/
def isMargin (c : Char) : Bool := isBlank c && !(0x1C ≤ c.toNat && c.toNat ≤ 0x1F)

/-- The number that decimal digits spell, the leading digit first. -/
def ofDigits (digits : List Nat) : Nat := digits.foldl (fun n d => 10 * n + d) 0

/-- The digit values of a non-empty run of digits with single underscores between digits. -/
def digitRun? : List Char → Option (List Nat)
  | [] => none
  | [c] => (digitValue? c).map fun d => [d]
  | c :: '_' :: rest => do
    let d ← digitValue? c
    let ds ← digitRun? rest
    return d :: ds
  | c :: rest => do
    let d ← digitValue? c
    let ds ← digitRun? rest
    return d :: ds

/-- The number that an unsigned run of digits spells, if it is not too long. -/
def natural? (text : List Char) : Option Nat := do
  let digits ← digitRun? text
  if digits.length ≤ maxDigits then some (ofDigits digits) else none

/-- The number that a numeral spells. -/
def integer? (text : String) : Option Int :=
  let body := ((text.toList.dropWhile isMargin).reverse.dropWhile isMargin).reverse
  match body with
  | '-' :: rest => (natural? rest).map fun n => -(n : Int)
  | '+' :: rest => (natural? rest).map fun n => (n : Int)
  | rest => (natural? rest).map fun n => (n : Int)

/-- A digit below sixteen as one character. -/
def hexDigit (n : Nat) : Char := (Nat.digitChar n)

/-- The last `width` hexadecimal digits of a number. -/
def hexDigits : Nat → Nat → List Char
  | 0, _ => []
  | width + 1, n => hexDigits width (n / 16) ++ [hexDigit (n % 16)]

/-- The value of a hexadecimal digit. -/
def hexValue? (c : Char) : Option Nat :=
  if '0' ≤ c && c ≤ '9' then some (c.toNat - '0'.toNat)
  else if 'a' ≤ c && c ≤ 'f' then some (c.toNat - 'a'.toNat + 10)
  else if 'A' ≤ c && c ≤ 'F' then some (c.toNat - 'A'.toNat + 10)
  else none

end NumberingPlan.Text
