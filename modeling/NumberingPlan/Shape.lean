import NumberingPlan.CallingCode
import NumberingPlan.Decimal.Binary64

/-! The shape of the generated lookup: the smallest container that holds what the calling codes
and regions of a collection need, and how large it is made. -/
namespace NumberingPlan

/-- What the generated lookup holds. -/
inductive Shape where
  | fullMap (entries : RegionsByCode)
  | countryCodes (codes : List Int)
  | regionCodes (regions : List String)
  deriving DecidableEq, Repr

/-- Why no capacity can be given: the count is beyond the doubles, or the quotient is. -/
inductive CapacityFault where
  | count
  | quotient
  deriving DecidableEq, Repr

def CapacityFault.message : CapacityFault → String
  | .count => "int too large to convert to float"
  | .quotient => "cannot convert float infinity to integer"

/-- The capacity of a hash container for a number of entries at load factor three quarters: the
count as a double, divided by three quarters as doubles divide, without its fraction. -/
def capacityFor (count : Int) : Except CapacityFault Int :=
  match Binary64.nearest? count.natAbs 1 with
  | none => .error .count
  | some (m, e) =>
    let (num, den) := Binary64.ratio m e
    match Binary64.nearest? (4 * num) (3 * den) with
    | none => .error .quotient
    | some (m, e) =>
      let size : Int := Binary64.whole m e
      .ok (if count < 0 then -size else size)

namespace Shape

/-- The smallest shape for regions under their codes. Several codes need a map if there is any
region and a set of codes if there is none; a lone code, or none, needs only its regions. -/
def select (codes : RegionsByCode) : Shape :=
  if 1 < codes.length then
    if codes.any fun entry => !entry.2.isEmpty then fullMap codes
    else countryCodes (codes.map (·.1))
  else
    regionCodes (codes.flatMap (·.2))

/-- The number of entries of the container. -/
def entryCount : Shape → Nat
  | fullMap entries => entries.length
  | countryCodes codes => codes.length
  | regionCodes regions => regions.length

/-- The capacity that the container is made with. A list held in memory has one. -/
def capacity (shape : Shape) : Int := (capacityFor shape.entryCount).toOption.getD 0

def name : Shape → String
  | fullMap _ => "FullMap"
  | countryCodes _ => "CountryCodeSet"
  | regionCodes _ => "RegionCodeSet"

end Shape

end NumberingPlan
