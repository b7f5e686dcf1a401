import NumberingPlan.Source.Draft
import NumberingPlan.Source.Statement

/-! The accessor that returns the lookup: a comment, a signature, a container of the right size,
the steps that fill it, and the return. -/
namespace NumberingPlan.Source

/-- The name of a shape's accessor. -/
def accessorName : Shape → String
  | .fullMap _ => "getCountryCodeToRegionCodeMap"
  | .countryCodes _ => "getCountryCodeSet"
  | .regionCodes _ => "getRegionCodeSet"

/-- What is said before the accessor. -/
def leadingComment : Shape → String
  | .fullMap _ =>
    "  // A mapping from a country code to the region codes which denote the\n" ++
    "  // country/region represented by that country code. In the case of multiple\n" ++
    "  // countries sharing a calling code, such as the NANPA countries, the one\n" ++
    "  // indicated with \"isMainCountryForCode\" in the metadata should be first.\n"
  | .countryCodes _ => "  // A set of all country codes for which data is available.\n"
  | .regionCodes _ => "  // A set of all region codes for which data is available.\n"

/-- The names that an accessor needs. -/
def accessorImports : Shape → List String
  | .fullMap _ =>
    ["java.util.ArrayList", "java.util.HashMap", "java.util.List", "java.util.Map"]
  | .countryCodes _ | .regionCodes _ => ["java.util.HashSet", "java.util.Set"]

/-- The comment on the size of the container. -/
def capacityComment (shape : Shape) : String :=
  s!"    // The capacity is set to {shape.capacity} as there are " ++
    s!"{shape.entryCount} different entries,\n" ++
    "    // and this offers a load factor of roughly 0.75.\n"

def signature : Shape → String
  | .fullMap _ => "  static Map<Integer, List<String>> getCountryCodeToRegionCodeMap() \x7b\n"
  | .countryCodes _ => "  static Set<Integer> getCountryCodeSet() \x7b\n"
  | .regionCodes _ => "  static Set<String> getRegionCodeSet() \x7b\n"

/-- The declaration of the container, and of what the steps need besides. -/
def declaration (shape : Shape) : String :=
  match shape with
  | .fullMap _ =>
    "    Map<Integer, List<String>> countryCodeToRegionCodeMap =\n" ++
    s!"        new HashMap<Integer, List<String>>({shape.capacity});\n" ++
    "\n    ArrayList<String> listWithRegionCode;\n\n"
  | .countryCodes _ =>
    s!"    Set<Integer> countryCodeSet = new HashSet<Integer>({shape.capacity});\n\n"
  | .regionCodes _ =>
    s!"    Set<String> regionCodeSet = new HashSet<String>({shape.capacity});\n\n"

/-- The return, and the end of the accessor. -/
def ending : Shape → String
  | .fullMap _ => "    return countryCodeToRegionCodeMap;\n  \x7d\n"
  | .countryCodes _ => "    return countryCodeSet;\n  \x7d\n"
  | .regionCodes _ => "    return regionCodeSet;\n  \x7d\n"

/-- The accessor after its leading comment. -/
def accessorCode (shape : Shape) : String :=
  signature shape ++ capacityComment shape ++ declaration shape ++
    String.join ((fillSteps shape).map Statement.line) ++ ending shape

/-- Adds a shape's accessor to a draft: the comment, the imports, then the code. -/
def emit (shape : Shape) : Drafting Unit := do
  addText (leadingComment shape)
  (accessorImports shape).forM addImport
  addText (accessorCode shape)

/-- What an accessor may be asked for. -/
inductive Subject where
  | shape (shape : Shape)
  | value (value : Json)

/-- Adds the accessor of a subject; a subject that is no shape has none. -/
def emitSubject : Subject → Drafting Unit
  | .shape shape => emit shape
  | .value value => throw (.noShape value.kindName)

end NumberingPlan.Source
