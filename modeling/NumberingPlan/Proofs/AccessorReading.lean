import NumberingPlan.Source.Accessor
import NumberingPlan.Proofs.JavaMethods

/-! The text of an accessor, read as Java: the tokens of each of its lines, no matter what the regions
are that it names, and the method that the lines make up. -/
namespace NumberingPlan.Source
open Java (Token Reads EndsNumber)
set_option maxRecDepth 4000

/-- A region that keeps to its line. -/
def OnOneLine (region : String) : Prop := '\n' ∉ region.toList ∧ '\r' ∉ region.toList

def codeTokens : Int → List Token
  | .ofNat n => [.number n]
  | .negSucc n => [.symbol '-', .number (n + 1)]

/-- The tokens of a step's line. -/
def Statement.tokens : Statement → List Token
  | newList size => [.word "listWithRegionCode", .symbol '=', .word "new", .word "ArrayList", .symbol '<',
    .word "String", .symbol '>', .symbol '(', .number size, .symbol ')', .symbol ';']
  | addRegionToList region => [.word "listWithRegionCode", .symbol '.', .word "add", .symbol '(',
    .text region, .symbol ')', .symbol ';']
  | putList code =>
    ([.word "countryCodeToRegionCodeMap", .symbol '.', .word "put", .symbol '('] : List Token) ++
      (codeTokens code ++ ([.symbol ','] : List Token)) ++
      ([.word "listWithRegionCode", .symbol ')', .symbol ';'] : List Token)
  | addCode code =>
    ([.word "countryCodeSet", .symbol '.', .word "add", .symbol '('] : List Token) ++
      (codeTokens code ++ ([.symbol ')'] : List Token)) ++ ([.symbol ';'] : List Token)
  | addRegion region => [.word "regionCodeSet", .symbol '.', .word "add", .symbol '(', .text region,
    .symbol ')', .symbol ';']
  | blank => []

/-- The regions that a step names. -/
def Statement.regions : Statement → List String
  | addRegionToList region | addRegion region => [region]
  | newList _ | putList _ | addCode _ | blank => []

private theorem bracket_ends : EndsNumber ')' [.symbol ')'] := ⟨by decide, by decide, by decide, rfl⟩

private theorem comma_ends : EndsNumber ',' [.symbol ','] := ⟨by decide, by decide, by decide, rfl⟩

theorem space_ends : EndsNumber ' ' [] := ⟨by decide, by decide, by decide, rfl⟩

private theorem code_reads (code : Int) (ends : EndsNumber c out) (plain : c ≠ '\\') :
    Reads (code.repr.toList ++ [c]) (codeTokens code ++ out) := by
  cases code with
  | ofNat n =>
    exact Java.number_reads n ends plain
  | negSucc n =>
    rw [show (Int.negSucc n).repr = "-" ++ (n + 1).repr from rfl, String.toList_append, List.append_assoc]
    have minus : Reads "-".toList [.symbol '-'] := .of_plain ⟨by decide, rfl⟩
    exact minus.append (Java.number_reads (n + 1) ends plain)

private theorem run_literalChar (sofar : List Char) (c : Char) (stays : Java.endsLine c = false) :
    Java.lexer.run (.text sofar) (literalChar c) = some ([], .text (sofar ++ [c])) := by
  by_cases backslash : c = '\\'
  · subst backslash
    rfl
  · by_cases quote : c = '"'
    · subst quote
      rfl
    · simp [literalChar, backslash, quote, Java.Pass.run, Java.lexer, stays]

private theorem run_literalChars (sofar : List Char) (stays : ∀ c ∈ cs, Java.endsLine c = false) :
    Java.lexer.run (.text sofar) (cs.flatMap literalChar) = some ([], .text (sofar ++ cs)) := by
  induction cs generalizing sofar with
  | nil => simp [Java.Pass.run]
  | cons c cs ih =>
    have first := run_literalChar sofar c (stays c List.mem_cons_self)
    have rest := ih (sofar ++ [c]) fun c here => stays c (List.mem_cons_of_mem _ here)
    rw [List.flatMap_cons]
    simpa using Java.Pass.run_append first rest

/-- Every backslash of a literal begins or ends a pair, so none begins a Unicode escape. -/
theorem literalChars_translated (cs : List Char) :
    Java.escapes.run .plain (cs.flatMap literalChar) = some (cs.flatMap literalChar, .plain) := by
  induction cs with
  | nil => rfl
  | cons c cs ih =>
    have first : Java.escapes.run .plain (literalChar c) = some (literalChar c, .plain) := by
      by_cases backslash : c = '\\'
      · subst backslash
        rfl
      · by_cases quote : c = '"'
        · subst quote
          rfl
        · simp [literalChar, backslash, quote, Java.Pass.run, Java.escapes]
    rw [List.flatMap_cons]
    exact Java.Pass.run_append first ih

/-- A literal denotes the region it was made of. -/
theorem literal_reads (stays : OnOneLine region) :
    Reads ((literal region).toList ++ [')']) [.text region, .symbol ')'] := by
  have spelled : (literal region).toList = '"' :: (region.toList.flatMap literalChar ++ ['"']) :=
    String.toList_ofList
  have inside : ∀ c ∈ region.toList, Java.endsLine c = false := by
    intro c here
    simp only [Java.endsLine, Bool.or_eq_false_iff, beq_eq_false_iff_ne]
    exact ⟨fun same => stays.1 (same ▸ here), fun same => stays.2 (same ▸ here)⟩
  rw [spelled, List.cons_append, List.append_assoc]
  constructor
  · have opened : Java.escapes.run .plain ['"'] = some (['"'], .plain) := rfl
    have closed : Java.escapes.run .plain ['"', ')'] = some (['"', ')'], .plain) := rfl
    exact Java.Pass.run_append opened
      (Java.Pass.run_append (literalChars_translated region.toList) closed)
  · have opened : Java.lexer.run .idle ['"'] = some ([], .text []) := rfl
    have closed : Java.lexer.run (.text region.toList) ['"', ')'] =
        some ([.text region, .symbol ')'], .idle) := by
      by_cases empty : region.toList = []
      · obtain rfl : region = "" := String.toList_eq_nil_iff.mp empty
        rfl
      · simp [Java.Pass.run, Java.lexer, empty, Java.openToken, Java.beginsWord, Java.endsLine]
    exact Java.Pass.run_append opened (Java.Pass.run_append (run_literalChars [] inside) closed)

private theorem newList_reads : Reads "    listWithRegionCode = new ArrayList<String>(".toList
    [.word "listWithRegionCode", .symbol '=', .word "new", .word "ArrayList", .symbol '<', .word "String",
      .symbol '>', .symbol '('] :=
  .of_plain ⟨by decide, rfl⟩

private theorem addToList_reads : Reads "    listWithRegionCode.add(".toList
    [.word "listWithRegionCode", .symbol '.', .word "add", .symbol '('] :=
  .of_plain ⟨by decide, rfl⟩

private theorem put_reads : Reads "    countryCodeToRegionCodeMap.put(".toList
    [.word "countryCodeToRegionCodeMap", .symbol '.', .word "put", .symbol '('] :=
  .of_plain ⟨by decide, rfl⟩

private theorem putList_reads : Reads " listWithRegionCode);\n".toList
    [.word "listWithRegionCode", .symbol ')', .symbol ';'] :=
  .of_plain ⟨by decide, rfl⟩

private theorem addCode_reads : Reads "    countryCodeSet.add(".toList
    [.word "countryCodeSet", .symbol '.', .word "add", .symbol '('] :=
  .of_plain ⟨by decide, rfl⟩

private theorem addRegion_reads : Reads "    regionCodeSet.add(".toList
    [.word "regionCodeSet", .symbol '.', .word "add", .symbol '('] :=
  .of_plain ⟨by decide, rfl⟩

private theorem end_reads : Reads ";\n".toList [.symbol ';'] := .of_plain ⟨by decide, rfl⟩

/-- A text that stands in a frame is read with the first character after it. -/
theorem framed_reads {before middle after rest : String} (split : after.toList = [c] ++ rest.toList)
    (opened : Reads before.toList tokens) (inside : Reads (middle.toList ++ [c]) tokens')
    (closed : Reads rest.toList tokens'') :
    Reads (before ++ middle ++ after).toList (tokens ++ tokens' ++ tokens'') := by
  have regroup : (before ++ middle ++ after).toList =
      before.toList ++ (middle.toList ++ [c]) ++ rest.toList := by
    simp only [String.toList_append, split, List.append_assoc]
  rw [regroup]
  exact (opened.append inside).append closed

/-- The line of a step has the step's tokens. -/
theorem line_reads (statement : Statement) (stays : ∀ region ∈ statement.regions, OnOneLine region) :
    Reads statement.line.toList statement.tokens := by
  have bracket : ");\n".toList = [')'] ++ ";\n".toList := rfl
  have comma : ", listWithRegionCode);\n".toList = [','] ++ " listWithRegionCode);\n".toList := rfl
  cases statement with
  | newList size =>
    have sized := Java.number_reads size bracket_ends (by decide)
    exact framed_reads bracket newList_reads sized end_reads
  | addRegionToList region =>
    have quoted := literal_reads (stays region List.mem_cons_self)
    exact framed_reads bracket addToList_reads quoted end_reads
  | putList code =>
    have coded := code_reads code comma_ends (by decide)
    exact framed_reads comma put_reads coded putList_reads
  | addCode code =>
    have coded := code_reads code bracket_ends (by decide)
    exact framed_reads bracket addCode_reads coded end_reads
  | addRegion region =>
    have quoted := literal_reads (stays region List.mem_cons_self)
    exact framed_reads bracket addRegion_reads quoted end_reads
  | blank => exact .of_plain ⟨by decide, rfl⟩

/-- The variable that an accessor returns. -/
def resultName : Shape → String
  | .fullMap _ => "countryCodeToRegionCodeMap"
  | .countryCodes _ => "countryCodeSet"
  | .regionCodes _ => "regionCodeSet"

/-- The type that an accessor returns, and the class that it makes an object of. -/
def typeNames : Shape → String × String
  | .fullMap _ => ("Map", "HashMap")
  | .countryCodes _ | .regionCodes _ => ("Set", "HashSet")

/-- The arguments of both. -/
def typeArguments : Shape → List Token
  | .fullMap _ => [.symbol '<', .word "Integer", .symbol ',', .word "List", .symbol '<', .word "String",
    .symbol '>', .symbol '>']
  | .countryCodes _ => [.symbol '<', .word "Integer", .symbol '>']
  | .regionCodes _ => [.symbol '<', .word "String", .symbol '>']

/-- The lines of the comment before an accessor. -/
def leadingRemarks : Shape → List String
  | .fullMap _ => [
    " A mapping from a country code to the region codes which denote the",
    " country/region represented by that country code. In the case of multiple",
    " countries sharing a calling code, such as the NANPA countries, the one",
    " indicated with \"isMainCountryForCode\" in the metadata should be first."]
  | .countryCodes _ => [" A set of all country codes for which data is available."]
  | .regionCodes _ => [" A set of all region codes for which data is available."]

/-- The lines of the comment on the size of a container. -/
def capacityRemarks (size count : Nat) : List String := [
  " The capacity is set to " ++ size.repr ++ " as there are " ++ (count.repr ++ " different entries,"),
  " and this offers a load factor of roughly 0.75."]

def signatureTokens (shape : Shape) : List Token :=
  ([.word "static", .word (typeNames shape).1] : List Token) ++ typeArguments shape ++
    ([.word (accessorName shape), .symbol '(', .symbol ')', .symbol '\x7b'] : List Token)

/-- The tokens that declare the list of an entry, which only a map has. -/
def listTokens : Shape → List Token
  | .fullMap _ => [.word "ArrayList", .symbol '<', .word "String", .symbol '>', .word "listWithRegionCode",
    .symbol ';']
  | .countryCodes _ | .regionCodes _ => []

/-- The tokens of the declarations, given the size of the container. -/
def declarationTokens (size : Nat) (shape : Shape) : List Token :=
  ([.word (typeNames shape).1] : List Token) ++ typeArguments shape ++
    ([.word (resultName shape), .symbol '=', .word "new", .word (typeNames shape).2] : List Token) ++
    typeArguments shape ++ ([.symbol '(', .number size, .symbol ')', .symbol ';'] : List Token) ++
    listTokens shape

/-- The tokens of the return and of the end. -/
def endingTokens (shape : Shape) : List Token :=
  [.word "return", .word (resultName shape), .symbol ';', .symbol '\x7d']

/-- The tokens of an accessor with its comments, given the size of the container. -/
def accessorTokens (size : Nat) (shape : Shape) : List Token :=
  (leadingRemarks shape).map .comment ++ (signatureTokens shape ++
    (capacityRemarks size shape.entryCount).map .comment ++ declarationTokens size shape ++
    (fillSteps shape).flatMap Statement.tokens ++ endingTokens shape)

private theorem mapComment_reads (entries : RegionsByCode) :
    Reads (leadingComment (.fullMap entries)).toList ((leadingRemarks (.fullMap entries)).map .comment) := by
  have first : Reads "  // A mapping from a country code to the region codes which denote the\n".toList
      [.comment " A mapping from a country code to the region codes which denote the"] :=
    .of_plain ⟨by decide, rfl⟩
  have second : Reads "  // country/region represented by that country code. In the case of multiple\n".toList
      [.comment " country/region represented by that country code. In the case of multiple"] :=
    .of_plain ⟨by decide, rfl⟩
  have third : Reads "  // countries sharing a calling code, such as the NANPA countries, the one\n".toList
      [.comment " countries sharing a calling code, such as the NANPA countries, the one"] :=
    .of_plain ⟨by decide, rfl⟩
  have fourth : Reads
      "  // indicated with \"isMainCountryForCode\" in the metadata should be first.\n".toList
      [.comment " indicated with \"isMainCountryForCode\" in the metadata should be first."] :=
    .of_plain ⟨by decide, rfl⟩
  unfold leadingComment
  rw [String.toList_append, String.toList_append, String.toList_append]
  exact ((first.append second).append third).append fourth

private theorem leadingComment_reads (shape : Shape) :
    Reads (leadingComment shape).toList ((leadingRemarks shape).map .comment) := by
  cases shape with
  | fullMap entries => exact mapComment_reads entries
  | countryCodes codes =>
    exact (.of_plain ⟨by decide, rfl⟩ : Reads
      "  // A set of all country codes for which data is available.\n".toList
      [.comment " A set of all country codes for which data is available."])
  | regionCodes regions =>
    exact (.of_plain ⟨by decide, rfl⟩ : Reads
      "  // A set of all region codes for which data is available.\n".toList
      [.comment " A set of all region codes for which data is available."])

private theorem signature_reads (shape : Shape) : Reads (signature shape).toList (signatureTokens shape) := by
  cases shape <;> simp only [signature, signatureTokens, typeNames, typeArguments, accessorName] <;>
    exact .of_plain ⟨by decide, rfl⟩

private theorem ending_reads (shape : Shape) : Reads (ending shape).toList (endingTokens shape) := by
  cases shape <;> simp only [ending, endingTokens, resultName] <;>
    exact .of_plain ⟨by decide, rfl⟩

/-- Whether characters keep to the line of a comment and have no Unicode escape. -/
def remarkable (cs : List Char) : Bool := cs.all fun c => !Java.endsLine c && c != '\\'

private theorem digits_remarkable (n : Nat) : remarkable n.repr.toList = true := by
  refine List.all_eq_true.mpr fun c here => ?_
  rw [Nat.toList_repr] at here
  have digit := Nat.isDigit_of_mem_toDigits (by decide) (by decide) here
  simp only [Java.endsLine, Bool.and_eq_true, Bool.not_eq_true', Bool.or_eq_false_iff,
    beq_eq_false_iff_ne, bne_iff_ne]
  refine ⟨⟨?_, ?_⟩, ?_⟩ <;> rintro rfl <;> exact absurd digit (by decide)

/-- A comment of such characters is read as they are. -/
theorem remark_reads (plain : remarkable cs = true) :
    Reads ('/' :: '/' :: cs ++ ['\n']) [.comment (String.ofList cs)] := by
  have each := List.all_eq_true.mp plain
  simp only [Bool.and_eq_true, Bool.not_eq_true', bne_iff_ne] at each
  exact Java.comment_reads (fun c here => (each c here).1) fun here => (each _ here).2 rfl

private theorem capacityRemark_remarkable (size count : Nat) :
    remarkable (" The capacity is set to ".toList ++ size.repr.toList ++ " as there are ".toList ++
      (count.repr.toList ++ " different entries,".toList)) = true := by
  have opening : remarkable " The capacity is set to ".toList = true := rfl
  have middle : remarkable " as there are ".toList = true := rfl
  have closing : remarkable " different entries,".toList = true := rfl
  have sized := digits_remarkable size
  have counted := digits_remarkable count
  simp only [remarkable, List.all_append, Bool.and_eq_true] at opening middle closing sized counted ⊢
  exact ⟨⟨⟨opening, sized⟩, middle⟩, counted, closing⟩

private theorem capacityComment_reads {size : Nat} (made : Shape.capacity shape = size) :
    Reads (capacityComment shape).toList ((capacityRemarks size shape.entryCount).map .comment) := by
  have spelled : capacityComment shape = "    // The capacity is set to " ++ shape.capacity.repr ++
      " as there are " ++ (shape.entryCount.repr ++ " different entries,\n") ++
      "    // and this offers a load factor of roughly 0.75.\n" := rfl
  have opening : "    // The capacity is set to ".toList =
      "    ".toList ++ ('/' :: '/' :: " The capacity is set to ".toList) := rfl
  have closing : " different entries,\n".toList = " different entries,".toList ++ ['\n'] := rfl
  have indent : Reads "    ".toList [] := .of_plain ⟨by decide, rfl⟩
  have first := remark_reads (capacityRemark_remarkable size shape.entryCount)
  rw [← String.toList_append, ← String.toList_append, ← String.toList_append, ← String.toList_append,
    String.ofList_toList] at first
  have second : Reads "    // and this offers a load factor of roughly 0.75.\n".toList
      [.comment " and this offers a load factor of roughly 0.75."] :=
    .of_plain ⟨by decide, rfl⟩
  have whole := (indent.append first).append second
  rw [spelled, made]
  simp only [String.toList_append, opening, closing, List.append_assoc, List.cons_append] at whole ⊢
  exact whole

private theorem mapDeclaration_reads {size : Nat} (made : (Shape.fullMap entries).capacity = size) :
    Reads (declaration (.fullMap entries)).toList (declarationTokens size (.fullMap entries)) := by
  have spelled : declaration (.fullMap entries) =
      "    Map<Integer, List<String>> countryCodeToRegionCodeMap =\n" ++
        ("        new HashMap<Integer, List<String>>(" ++ (Shape.fullMap entries).capacity.repr ++ ");\n") ++
        "\n    ArrayList<String> listWithRegionCode;\n\n" := rfl
  have bracket : ");\n".toList = [')'] ++ ";\n".toList := rfl
  have declared : Reads "    Map<Integer, List<String>> countryCodeToRegionCodeMap =\n".toList
      (([.word "Map"] : List Token) ++ typeArguments (.fullMap []) ++
        ([.word "countryCodeToRegionCodeMap", .symbol '='] : List Token)) :=
    .of_plain ⟨by decide, rfl⟩
  have container : Reads "        new HashMap<Integer, List<String>>(".toList
      (([.word "new", .word "HashMap"] : List Token) ++ typeArguments (.fullMap []) ++
        ([.symbol '('] : List Token)) :=
    .of_plain ⟨by decide, rfl⟩
  have list : Reads "\n    ArrayList<String> listWithRegionCode;\n\n".toList (listTokens (.fullMap [])) :=
    .of_plain ⟨by decide, rfl⟩
  have sized : Reads ((size : Int).repr.toList ++ [')']) [.number size, .symbol ')'] :=
    Java.number_reads size bracket_ends (by decide)
  rw [spelled, made, String.toList_append, String.toList_append]
  exact (declared.append (framed_reads bracket container sized end_reads)).append list

private theorem setDeclaration_reads {size : Nat} (opened : Reads opening.toList tokens) :
    Reads (opening ++ (size : Int).repr ++ ");\n\n").toList
      (tokens ++ [.number size, .symbol ')'] ++ [.symbol ';']) := by
  have bracket : ");\n\n".toList = [')'] ++ ";\n\n".toList := rfl
  have sized : Reads ((size : Int).repr.toList ++ [')']) [.number size, .symbol ')'] :=
    Java.number_reads size bracket_ends (by decide)
  exact framed_reads bracket opened sized (.of_plain ⟨by decide, rfl⟩)

/-- The declarations have their tokens, given the size of the container. -/
theorem declaration_reads {size : Nat} (made : Shape.capacity shape = size) :
    Reads (declaration shape).toList (declarationTokens size shape) := by
  cases shape with
  | fullMap entries => exact mapDeclaration_reads made
  | countryCodes codes =>
    have spelled : declaration (.countryCodes codes) =
        "    Set<Integer> countryCodeSet = new HashSet<Integer>(" ++ (Shape.countryCodes codes).capacity.repr ++
          ");\n\n" := rfl
    have opened : Reads "    Set<Integer> countryCodeSet = new HashSet<Integer>(".toList
        (([.word "Set"] : List Token) ++ typeArguments (.countryCodes []) ++
          ([.word "countryCodeSet", .symbol '=', .word "new", .word "HashSet"] : List Token) ++
          typeArguments (.countryCodes []) ++ ([.symbol '('] : List Token)) :=
      .of_plain ⟨by decide, rfl⟩
    rw [spelled, made]
    exact setDeclaration_reads opened
  | regionCodes regions =>
    have spelled : declaration (.regionCodes regions) =
        "    Set<String> regionCodeSet = new HashSet<String>(" ++ (Shape.regionCodes regions).capacity.repr ++
          ");\n\n" := rfl
    have opened : Reads "    Set<String> regionCodeSet = new HashSet<String>(".toList
        (([.word "Set"] : List Token) ++ typeArguments (.regionCodes []) ++
          ([.word "regionCodeSet", .symbol '=', .word "new", .word "HashSet"] : List Token) ++
          typeArguments (.regionCodes []) ++ ([.symbol '('] : List Token)) :=
      .of_plain ⟨by decide, rfl⟩
    rw [spelled, made]
    exact setDeclaration_reads opened

/-- The regions that a shape names. -/
def regionsOf : Shape → List String
  | .fullMap entries => entries.flatMap (·.2)
  | .countryCodes _ => []
  | .regionCodes regions => regions

theorem regions_of_steps (shape : Shape) : (fillSteps shape).flatMap Statement.regions = regionsOf shape := by
  have adds (make : String → Statement) (one : ∀ region, (make region).regions = [region])
      (regions : List String) : (regions.map make).flatMap Statement.regions = regions := by
    induction regions with
    | nil => rfl
    | cons region regions ih => simp [one, ih]
  cases shape with
  | fullMap entries =>
    induction entries with
    | nil => rfl
    | cons entry entries ih =>
      simp only [fillSteps, regionsOf, List.flatMap_cons, List.flatMap_append, List.cons_append,
        List.append_assoc] at ih ⊢
      rw [ih, adds .addRegionToList fun _ => rfl]
      rfl
  | countryCodes codes =>
    induction codes with
    | nil => rfl
    | cons code codes ih => exact ih
  | regionCodes regions =>
    simp only [fillSteps, regionsOf, List.flatMap_append]
    rw [adds .addRegion fun _ => rfl]
    exact List.append_nil regions

/-- The text of an accessor has the accessor's tokens. -/
theorem accessor_reads {size : Nat} (made : Shape.capacity shape = size)
    (stays : ∀ region ∈ regionsOf shape, OnOneLine region) :
    Reads (leadingComment shape ++ accessorCode shape).toList (accessorTokens size shape) := by
  have steps : Reads (String.join ((fillSteps shape).map Statement.line)).toList
      ((fillSteps shape).flatMap Statement.tokens) := by
    rw [String.toList_join, List.flatMap_map]
    refine .flatMap fun statement here => line_reads statement fun region named => stays region ?_
    rw [← regions_of_steps]
    exact List.mem_flatMap.mpr ⟨statement, here, named⟩
  have code := ((((signature_reads shape).append (capacityComment_reads made)).append
    (declaration_reads made)).append steps).append (ending_reads shape)
  simp only [← String.toList_append] at code
  rw [String.toList_append]
  exact (leadingComment_reads shape).append code

end NumberingPlan.Source
