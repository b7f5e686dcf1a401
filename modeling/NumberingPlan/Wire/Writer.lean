import NumberingPlan.Territory
import NumberingPlan.Wire.Error

/-! Writing a collection. Numbers are big-endian and of fixed width, text is UTF-8 after its byte
count, lists come after their length, and what may be absent after a flag. The first number that does not
fit its width stops the writing, and so does the first text that has no spelling. -/
namespace NumberingPlan.Wire

variable {τ : Type} [Utf8.Spelled τ]

/-- Bytes, or the first value that cannot be written. -/
abbrev Written := Except Error (List UInt8)

/-- The two bytes of a number below 2^16, the high one first. -/
def bytes16 (n : Nat) : List UInt8 := [(n / 256).toUInt8, n.toUInt8]

/-- The four bytes of a number below 2^32, the high one first. -/
def bytes32 (n : Nat) : List UInt8 := bytes16 (n / 65536) ++ bytes16 n

/-- A number of 16 bits. -/
def u16 (value : Int) : Written :=
  if 0 ≤ value ∧ value < Width.u16.bound then .ok (bytes16 value.toNat)
  else .error (.tooWide value .u16)

/-- A number of 32 bits. -/
def u32 (value : Int) : Written :=
  if 0 ≤ value ∧ value < Width.u32.bound then .ok (bytes32 value.toNat)
  else .error (.tooWide value .u32)

def flag (b : Bool) : Written := .ok [if b then 1 else 0]

/-- One part after another. -/
def andThen (first second : Written) : Written := do
  let a ← first
  let b ← second
  return a ++ b

/-- All parts, in order. -/
def sequence : List Written → Written
  | [] => .ok []
  | part :: rest => andThen part (sequence rest)

/-- A text after its byte count. -/
def text (s : τ) : Written :=
  match Utf8.spell s with
  | .ok bytes => andThen (u32 bytes.length) (.ok bytes)
  | .error fault => .error (.unencodable fault)

/-- A text that may be absent. -/
def optionalText : Option τ → Written
  | none => flag false
  | some s => andThen (flag true) (text s)

/-- A list after its length. -/
def counted {α : Type} (item : α → Written) (items : List α) : Written :=
  andThen (u16 items.length) (sequence (items.map item))

/-- The fields of a description. -/
def desc (d : NumberDesc τ) : Written :=
  sequence [optionalText d.pattern, optionalText d.exampleNumber, counted u16 d.lengths,
    counted u16 d.localLengths]

def format (f : NumberFormat τ) : Written :=
  sequence [text f.pattern, text f.format, counted text f.leadingDigits,
    optionalText f.intlFormat, optionalText f.nationalPrefixRule, flag f.nationalPrefixOptional,
    optionalText f.carrierCodeRule]

/-- A name and its value. -/
def namedText (pair : τ × τ) : Written := andThen (text pair.1) (text pair.2)

/-- A name and its description. -/
def namedDesc (pair : τ × NumberDesc τ) : Written := andThen (text pair.1) (desc pair.2)

def territory (t : Territory τ) : Written :=
  sequence [text t.id, u32 t.countryCode, flag t.isMain, counted namedText t.attributes,
    counted namedDesc t.descriptions, counted format t.formats]

/-- The four bytes that every collection begins with. -/
def magic : List UInt8 := [0x50, 0x4E, 0x4D, 0x44]

def formatVersion : Nat := 1

/-- What stands before the territories: the magic, the version and their number. -/
def header (count : Nat) : Written :=
  sequence [.ok magic, u16 formatVersion, u32 count]

/-- A collection: the header and the territories in order. -/
def encode (territories : List (Territory τ)) : Written :=
  andThen (header territories.length) (sequence (territories.map territory))

end NumberingPlan.Wire
