import NumberingPlan.Wire.Writer

/-! Reading a collection. A reader takes bytes from the front and keeps count of how many went
before; what it takes short it reports with that count. -/
namespace NumberingPlan.Wire

/-- What is left of a payload, and how much went before. -/
structure Cursor where
  rest : List UInt8
  offset : Nat

/-- Takes a value from the front. -/
abbrev Reader (α : Type) := StateT Cursor (Except Error) α

namespace Reader

/-- The next bytes, as many as asked for. -/
def take (size : Nat) : Reader (List UInt8) := fun c =>
  let chunk := c.rest.take size
  if chunk.length < size then .error (.truncated c.offset size)
  else .ok (chunk, ⟨c.rest.drop size, c.offset + size⟩)

/-- The number that big-endian bytes spell. -/
def bigEndian (bytes : List UInt8) : Nat := bytes.foldl (fun n b => 256 * n + b.toNat) 0

/-- A number of 16 bits. -/
def u16 : Reader Nat := bigEndian <$> take 2

/-- A number of 32 bits. -/
def u32 : Reader Nat := bigEndian <$> take 4

/-- A flag; every byte but zero sets it. -/
def flag : Reader Bool := (fun bytes => bigEndian bytes != 0) <$> take 1

/-- A text after its byte count. -/
def text : Reader String := do
  let bytes ← take (← u32)
  match Utf8.decode bytes with
  | .ok s => return s
  | .error malformed => throw (.invalidText malformed)

/-- A text that may be absent. -/
def optionalText : Reader (Option String) := do
  if ← flag then some <$> text else return none

/-- As many items as asked for, after those already read, which come last first. -/
def times {α : Type} (item : Reader α) : Nat → List α → Reader (List α)
  | 0, done => pure done.reverse
  | n + 1, done => fun c =>
    match item c with
    | .error e => .error e
    | .ok (x, c) => times item n (x :: done) c

/-- A list after its length. -/
def counted {α : Type} (item : Reader α) : Reader (List α) := do times item (← u16) []

/-- A list of numbers after its length. -/
def lengths : Reader (List Int) := counted ((fun n : Nat => (n : Int)) <$> u16)

/-- The fields of a description. -/
def desc : Reader NumberDesc := do
  return {
    pattern := ← optionalText
    exampleNumber := ← optionalText
    lengths := ← lengths
    localLengths := ← lengths }

def format : Reader NumberFormat := do
  return {
    pattern := ← text
    format := ← text
    leadingDigits := ← counted text
    intlFormat := ← optionalText
    nationalPrefixRule := ← optionalText
    nationalPrefixOptional := ← flag
    carrierCodeRule := ← optionalText }

/-- A name and its value. -/
def namedText : Reader (String × String) := do return (← text, ← text)

/-- A name and its description. -/
def namedDesc : Reader (String × NumberDesc) := do return (← text, ← desc)

def territory : Reader Territory := do
  return {
    id := ← text
    countryCode := (← u32 : Nat)
    isMain := ← flag
    attributes := ← counted namedText
    descriptions := ← counted namedDesc
    formats := ← counted format }

/-- A collection: magic, version, number of territories, and the territories. -/
def collection : Reader (List Territory) := do
  let found ← take magic.length
  if found ≠ magic then throw .badMagic
  let version ← u16
  if version ≠ formatVersion then throw (.unsupportedVersion version)
  times territory (← u32) []

end Reader

/-- The territories of a payload, which has to end with the last of them. -/
def decode (payload : List UInt8) : Except Error (List Territory) := do
  let (territories, cursor) ← Reader.collection ⟨payload, 0⟩
  if cursor.rest.isEmpty then return territories else throw .trailingBytes

end NumberingPlan.Wire
