import NumberingPlan.Shape

/-! The statements of the generated accessors. Each fills a container by one step, and the text of
a step is one line of the target language. -/
namespace NumberingPlan.Source

/-- One step of an accessor. -/
inductive Statement where
  | newList (size : Nat)
  | addRegionToList (region : String)
  | putList (code : Int)
  | addCode (code : Int)
  | addRegion (region : String)
  | blank
  deriving DecidableEq, Repr

/-- How one character stands in a string literal. -/
def literalChar (c : Char) : List Char := if c == '\\' || c == '"' then ['\\', c] else [c]

def literal (s : String) : String := String.ofList ('"' :: (s.toList.flatMap literalChar ++ ['"']))

def Statement.line : Statement → String
  | newList size => s!"    listWithRegionCode = new ArrayList<String>({size});\n"
  | addRegionToList region => "    listWithRegionCode.add(" ++ literal region ++ ");\n"
  | putList code => s!"    countryCodeToRegionCodeMap.put({code}, listWithRegionCode);\n"
  | addCode code => s!"    countryCodeSet.add({code});\n"
  | addRegion region => "    regionCodeSet.add(" ++ literal region ++ ");\n"
  | blank => "\n"

/-- The steps that fill a shape's container, entry after entry. -/
def fillSteps : Shape → List Statement
  | .fullMap entries => entries.flatMap fun (code, regions) =>
      .newList regions.length :: (regions.map .addRegionToList ++ [.putList code, .blank])
  | .countryCodes codes => codes.map .addCode ++ [.blank]
  | .regionCodes regions => regions.map .addRegion ++ [.blank]

end NumberingPlan.Source
