/-! The metadata of one region or of one calling code without a region. A territory is read once
from a source and never changed; everything but its id, calling code and main mark is carried
along unread. Its texts are of any type, and are text proper where nothing else is said. -/
namespace NumberingPlan

/-- Patterns and lengths of one kind of number. -/
structure NumberDesc (τ : Type := String) where
  pattern : Option τ
  exampleNumber : Option τ
  lengths : List Int
  localLengths : List Int
  deriving DecidableEq, Repr

/-- One way of writing a national number. -/
structure NumberFormat (τ : Type := String) where
  pattern : τ
  format : τ
  leadingDigits : List τ
  intlFormat : Option τ
  nationalPrefixRule : Option τ
  nationalPrefixOptional : Bool
  carrierCodeRule : Option τ
  deriving DecidableEq, Repr

/-- The metadata of one region, or of one calling code that belongs to no region. The id is empty
for alternate formats; the calling code is zero where the source has none. -/
structure Territory (τ : Type := String) where
  id : τ
  countryCode : Int
  isMain : Bool
  attributes : List (τ × τ)
  descriptions : List (τ × NumberDesc τ)
  formats : List (NumberFormat τ)
  deriving DecidableEq, Repr

namespace Territory

/-- The id of every calling code that belongs to no region. -/
def nonGeographicId : String := "001"

/-- The attribute of a name, the first of them. -/
def attribute? (t : Territory) (name : String) : Option String := t.attributes.lookup name

/-- The description of a name, the first of them. -/
def description? (t : Territory) (name : String) : Option NumberDesc := t.descriptions.lookup name

/-- The name of a territory's output: its id, or its calling code where the id names no region. -/
def outputKey (t : Territory) : String :=
  if t.id = "" ∨ t.id = nonGeographicId then toString t.countryCode else t.id

end Territory

end NumberingPlan
