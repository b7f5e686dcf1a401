import NumberingPlan.Text.Loose

/-! What can be wrong with a collection on the wire, or with writing one. -/
namespace NumberingPlan.Wire

/-- The width of a number on the wire. -/
inductive Width where
  | u16
  | u32
  deriving DecidableEq, Repr

/-- One above the greatest number of a width. -/
def Width.bound : Width → Nat
  | .u16 => 0x10000
  | .u32 => 0x100000000

def Width.name : Width → String
  | .u16 => "u16"
  | .u32 => "u32"

/-- Why a collection cannot be written or read. -/
inductive Error where
  | tooWide (value : Int) (width : Width)
  | unencodable (fault : Utf8.Unencodable)
  | truncated (offset wanted : Nat)
  | badMagic
  | unsupportedVersion (version : Nat)
  | invalidText (malformed : Utf8.Malformed)
  | trailingBytes
  deriving DecidableEq, Repr

/-- The wording of an error. A number with too many digits cannot be told. -/
def Error.message : Error → String
  | .tooWide value width =>
    if Text.isWritable value then s!"Value {value} does not fit in {width.name}"
    else Text.tooManyDigits
  | .unencodable fault => fault.message
  | .truncated offset wanted => s!"Truncated payload at offset {offset} (wanted {wanted} bytes)"
  | .badMagic => "Not a metadata collection (bad magic)"
  | .unsupportedVersion version => s!"Unsupported format version {version}"
  | .invalidText malformed => "Invalid UTF-8 string: " ++ malformed.message
  | .trailingBytes => "Trailing bytes after metadata collection"

end NumberingPlan.Wire
