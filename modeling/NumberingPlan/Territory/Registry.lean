import NumberingPlan.Territory
import NumberingPlan.Text.Case
import NumberingPlan.Text.Quoted

/-! A registry of published metadata: entries under their regions, and under the calling codes that
belong to no region. An entry becomes a territory, and a request for some or all entries becomes a
list of territories. -/
namespace NumberingPlan

/-- A format as it is written from abroad. An entry keeps these apart from its national formats. -/
structure InternationalFormat where
  pattern : String
  leadingDigits : List String
  format : Option String
  deriving DecidableEq, Repr

/-- A format as it is written within the country. -/
structure DomesticFormat where
  pattern : String
  leadingDigits : List String
  format : String
  nationalPrefixRule : Option String
  nationalPrefixOptional : Bool
  carrierCodeRule : Option String
  deriving DecidableEq, Repr

/-- The published metadata of one region or one calling code. Its texts and descriptions stand
under the names that attributes and descriptions of a territory have. -/
structure RegistryEntry where
  id : String
  countryCode : Option Int
  isMain : Bool
  isPortable : Bool
  texts : List (String × String)
  descriptions : List (String × NumberDesc)
  formats : List DomesticFormat
  internationalFormats : List InternationalFormat
  deriving DecidableEq, Repr

namespace RegistryEntry

/-- The texts that become attributes, in the order of the attributes. -/
def textNames : List String :=
  ["internationalPrefix", "preferredInternationalPrefix", "nationalPrefix",
    "preferredExtnPrefix", "nationalPrefixForParsing", "nationalPrefixTransformRule",
    "leadingDigits"]

/-- The descriptions that are taken over, in the order of the descriptions. -/
def descriptionNames : List String :=
  ["generalDesc", "fixedLine", "mobile", "tollFree", "premiumRate", "sharedCost",
    "personalNumber", "voip", "pager", "uan", "voicemail", "noInternationalDialling"]

/-- What stands under some names, in the order of the names. -/
def select {α : Type} (names : List String) (found : List (String × α)) : List (String × α) :=
  names.filterMap fun name => (found.lookup name).map fun value => (name, value)

/-- The attributes of an entry's territory. -/
def attributes (e : RegistryEntry) : List (String × String) :=
  select textNames e.texts ++
    (if e.isPortable then [("mobileNumberPortableRegion", "true")] else [])

/-- How a format is written from abroad: as at home if the entry has no formats of this kind, else
after the last of them with the same pattern, and not at all if there is none. -/
def intlFormat (e : RegistryEntry) (pattern : String) : Option String :=
  if e.internationalFormats.isEmpty then none
  else
    match e.internationalFormats.reverse.find? (·.pattern == pattern) with
    | some f => f.format
    | none => some "NA"

/-- A format of an entry's territory. -/
def format (e : RegistryEntry) (f : DomesticFormat) : NumberFormat where
  pattern := f.pattern
  format := f.format
  leadingDigits := f.leadingDigits
  intlFormat := e.intlFormat f.pattern
  nationalPrefixRule := f.nationalPrefixRule
  nationalPrefixOptional := f.nationalPrefixOptional
  carrierCodeRule := f.carrierCodeRule

/-- A description of an entry's territory. A lite reading leaves the example number out. -/
def description (lite : Bool) (d : NumberDesc) : NumberDesc where
  pattern := d.pattern
  exampleNumber := if lite then none else d.exampleNumber
  lengths := d.lengths
  localLengths := d.localLengths

def toTerritory (lite : Bool) (e : RegistryEntry) : Territory where
  id := e.id
  countryCode := e.countryCode.getD 0
  isMain := e.isMain
  attributes := e.attributes
  descriptions := (select descriptionNames e.descriptions).map fun (name, d) => (name, description lite d)
  formats := e.formats.map e.format

end RegistryEntry

/-- A registry: its entries, and the regions and codes that it says it has entries for. -/
structure Registry where
  regions : List (String × RegistryEntry)
  codes : List (Int × RegistryEntry)
  supportedRegions : List String
  supportedCodes : List Int
  deriving Repr

namespace Registry

/-- What is asked for and has no entry. -/
inductive Missing where
  | region (name : String)
  | code (number : Int)
  deriving DecidableEq, Repr

def Missing.message : Missing → String
  | .region name => "No bundled metadata for region " ++ Text.quoted name
  | .code number => s!"No bundled metadata for calling code {number}"

/-- Regions in ascending order, each once. -/
def ascendingRegions (regions : List String) : List String :=
  regions.eraseDups.mergeSort fun a b => !(b < a)

def ascendingCodes (codes : List Int) : List Int := codes.mergeSort fun a b => a ≤ b

/-- The regions that a request names: all that are supported, or the given ones in upper case. -/
def requestedRegions (registry : Registry) (regions : Option (List String)) : List String :=
  match regions with
  | none => ascendingRegions registry.supportedRegions
  | some regions => regions.map Text.upper

/-- The codes that a request names. Without regions they are put in order, and without codes too
they are all that are supported; with regions they stay as given. -/
def requestedCodes (registry : Registry) (regions : Option (List String))
    (codes : Option (List Int)) : List Int :=
  match regions, codes with
  | none, none => ascendingCodes registry.supportedCodes.eraseDups
  | none, some codes => ascendingCodes codes
  | some _, codes => codes.getD []

def region (registry : Registry) (lite : Bool) (name : String) : Except Missing Territory :=
  match registry.regions.lookup name with
  | some e => .ok (e.toTerritory lite)
  | none => .error (.region name)

/-- The territory of a calling code without a region. -/
def code (registry : Registry) (lite : Bool) (number : Int) : Except Missing Territory :=
  match registry.codes.lookup number with
  | some e => .ok (e.toTerritory lite)
  | none => .error (.code number)

/-- The territories that a request names, regions before codes. -/
def load (registry : Registry) (regions : Option (List String)) (codes : Option (List Int))
    (lite : Bool) : Except Missing (List Territory) := do
  let first ← (registry.requestedRegions regions).mapM (registry.region lite)
  let second ← (registry.requestedCodes regions codes).mapM (registry.code lite)
  return first ++ second

end Registry

end NumberingPlan
