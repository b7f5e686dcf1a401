import NumberingPlan.Text.Quoted

/-! What can be wrong with a YAML document: its form, or a scalar that does not hold what its tag
promises. -/
namespace NumberingPlan.Yaml

/-- Which part of a date or time is out of its range. -/
inductive DatePart where
  | year (n : Nat)
  | month
  | day
  | hour
  | minute
  | second
  deriving DecidableEq, Repr

/-- The wording of a part that is out of its range. -/
def DatePart.message : DatePart → String
  | year n => s!"year {n} is out of range"
  | month => "month must be in 1..12"
  | day => "day is out of range for month"
  | hour => "hour must be in 0..23"
  | minute => "minute must be in 0..59"
  | second => "second must be in 0..59"

/-- Why a document has no value. -/
inductive Fault where
  | malformed
  | characterRange
  | characterTooLarge
  | emptyNumber
  | notInteger (base : Nat) (text : String)
  | tooManyDigits (count : Nat)
  | notFloat (text : String)
  | notBoolean (text : String)
  | notTimestamp
  | badDate (part : DatePart)
  | badOffset (days : Int) (seconds : Nat)
  deriving DecidableEq, Repr

/-- The wording of a fault. A document whose form is wrong has none. -/
def Fault.message : Fault → String
  | malformed => ""
  | characterRange => "chr() arg not in range(0x110000)"
  | characterTooLarge => "Python int too large to convert to C int"
  | emptyNumber => "string index out of range"
  | notInteger base text => s!"invalid literal for int() with base {base}: " ++ Text.quoted text
  | tooManyDigits count =>
    s!"Exceeds the limit (4300 digits) for integer string conversion: value has {count} digits; " ++
      "use sys.set_int_max_str_digits() to increase the limit"
  | notFloat text => "could not convert string to float: " ++ Text.quoted text
  | notBoolean text => text
  | notTimestamp => "'NoneType' object has no attribute 'groupdict'"
  | badDate part => part.message
  | badOffset days seconds =>
    let parts := (if days != 0 then [s!"days={days}"] else []) ++
      (if seconds != 0 then [s!"seconds={seconds}"] else [])
    "offset must be a timedelta strictly between -timedelta(hours=24) and timedelta(hours=24), " ++
      "not datetime.timedelta(" ++ String.intercalate ", " parts ++ ")."

end NumberingPlan.Yaml
