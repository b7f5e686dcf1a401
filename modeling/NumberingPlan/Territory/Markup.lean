import NumberingPlan.Territory
import NumberingPlan.Territory.Lengths
import NumberingPlan.Text.Case
import NumberingPlan.Xml.Element

/-! Territories in markup. A territory is one element: its own attributes, one child for every kind
of number, and its formats below `availableFormats`. -/
namespace NumberingPlan.Territory

/-- Why an element is no territory. -/
inductive MarkupFault where
  | badCode (id code : String)
  | badLengths (fault : Lengths.Fault)
  | incompleteFormat
  deriving DecidableEq, Repr

def MarkupFault.message : MarkupFault → String
  | badCode id code =>
    "Territory " ++ Text.quoted id ++ " has a non-numeric countryCode " ++ Text.quoted code
  | badLengths fault => fault.message
  | incompleteFormat => "numberFormat requires a pattern attribute and a format element"

/-- The elements that describe a kind of number, in the order that a territory lists them. -/
def descriptionNames : List String :=
  ["generalDesc", "fixedLine", "mobile", "tollFree", "premiumRate", "sharedCost",
    "personalNumber", "voip", "pager", "uan", "emergency", "voicemail", "shortCode",
    "standardRate", "carrierSpecific", "smsServices", "noInternationalDialling"]

/-- The attributes that are fields of a territory and not among its attributes. -/
def fieldNames : List String := ["id", "countryCode", "mainCountryForCode"]

/-- Whether a text, without blanks around it and in any case, reads true. -/
def isTrue (value : Option String) : Bool :=
  Text.sameIgnoringAsciiCase (String.ofList (Text.trim (value.getD "").toList)) "true"

/-- The lengths in an attribute of an element that may be absent. -/
def lengthsIn (e : Option Xml.Element) (name : String) : Except MarkupFault (List Int) :=
  match Lengths.parse? (e.bind fun e => e.attribute? name) with
  | .ok lengths => .ok lengths
  | .error fault => .error (.badLengths fault)

/-- The description that an element gives. A lite reading leaves the example number out. -/
def descriptionOf (lite : Bool) (e : Xml.Element) : Except MarkupFault NumberDesc := do
  let lengths := e.child? "possibleLengths"
  return {
    pattern := (e.childText? "nationalNumberPattern").map Text.squeeze
    exampleNumber := if lite then none else (e.childText? "exampleNumber").map Text.squeeze
    lengths := ← lengthsIn lengths "national"
    localLengths := ← lengthsIn lengths "localOnly" }

/-- The format that an element gives. -/
def formatOf (e : Xml.Element) : Except MarkupFault NumberFormat :=
  match e.attribute? "pattern", e.childText? "format" with
  | some pattern, some format => .ok {
      pattern := pattern
      format := format
      leadingDigits := (e.childrenNamed "leadingDigits").map fun d => Text.squeeze d.text
      intlFormat := e.childText? "intlFormat"
      nationalPrefixRule := e.attribute? "nationalPrefixFormattingRule"
      nationalPrefixOptional := isTrue (e.attribute? "nationalPrefixOptionalWhenFormatting")
      carrierCodeRule := e.attribute? "carrierCodeFormattingRule" }
  | _, _ => .error .incompleteFormat

/-- The calling code of a territory; without one, or with an empty one, it is zero. -/
def codeOf (id : String) (code : Option String) : Except MarkupFault Int :=
  match code with
  | none => .ok 0
  | some code =>
    if code.isEmpty then .ok 0
    else
      match Text.integer? code with
      | some n => .ok n
      | none => .error (.badCode id code)

/-- The descriptions of the names that an element has a child for, in the order of the names. -/
def descriptionsOf (lite : Bool) (e : Xml.Element) (names : List String) :
    Except MarkupFault (List (String × NumberDesc)) :=
  (names.filterMap fun name => (e.child? name).map fun child => (name, child)).mapM
    fun (name, child) => return (name, ← descriptionOf lite child)

/-- The formats of a territory, in document order. -/
def formatElements (e : Xml.Element) : List Xml.Element :=
  (e.childrenNamed "availableFormats").flatMap (·.childrenNamed "numberFormat")

def ofElement (lite : Bool) (e : Xml.Element) : Except MarkupFault Territory := do
  let id := (e.attribute? "id").getD ""
  return {
    id := id
    countryCode := ← codeOf id (e.attribute? "countryCode")
    isMain := isTrue (e.attribute? "mainCountryForCode")
    attributes := e.attributes.filter fun (name, _) => !fieldNames.contains name
    descriptions := ← descriptionsOf lite e descriptionNames
    formats := ← (formatElements e).mapM formatOf }

/-- The territories of a document, in its order. -/
def ofDocument (lite : Bool) (root : Xml.Element) : Except MarkupFault (List Territory) :=
  ((root.childrenNamed "territories").flatMap (·.childrenNamed "territory")).mapM (ofElement lite)

end NumberingPlan.Territory
