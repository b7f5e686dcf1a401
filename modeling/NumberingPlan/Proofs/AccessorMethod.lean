import NumberingPlan.Proofs.AccessorReading

/-! The method that an accessor's tokens are, the string literals among them, and the number of entries
that its comments state. -/
namespace NumberingPlan.Source
open Java (Token Reads)
set_option maxRecDepth 4000

/-- A calling code that is an integer of 32 bits. -/
def IsInt (code : Int) : Prop := -2147483648 ≤ code ∧ code ≤ 2147483647

/-- The calling codes that a shape holds. -/
def codesOf : Shape → List Int
  | .fullMap entries => entries.map (·.1)
  | .countryCodes codes => codes
  | .regionCodes _ => []

/-- The calling codes that a step names. -/
def Statement.codes : Statement → List Int
  | putList code | addCode code => [code]
  | newList _ | addRegionToList _ | addRegion _ | blank => []

/-- What a step is as a statement. -/
def Statement.reading : Statement → List Java.Statement
  | newList size => [.assign "listWithRegionCode" (.new "ArrayList" size)]
  | addRegionToList region => [.call "listWithRegionCode" "add" [.text region]]
  | putList code => [.call "countryCodeToRegionCodeMap" "put" [.int code, .name "listWithRegionCode"]]
  | addCode code => [.call "countryCodeSet" "add" [.int code]]
  | addRegion region => [.call "regionCodeSet" "add" [.text region]]
  | blank => []

/-- The statements that declare what an accessor needs, given the size of the container. -/
def declarations (size : Nat) (shape : Shape) : List Java.Statement :=
  .declare (typeNames shape).1 (resultName shape) (some (.new (typeNames shape).2 size)) ::
    match shape with
    | .fullMap _ => [.declare "ArrayList" "listWithRegionCode" none]
    | .countryCodes _ | .regionCodes _ => []

/-- The statements of an accessor, given the size of the container. -/
def bodyOf (size : Nat) (shape : Shape) : List Java.Statement :=
  declarations size shape ++ (fillSteps shape).flatMap Statement.reading ++ [.return (resultName shape)]

private theorem operand?_code (code : Int) (small : IsInt code) (rest : List Token) :
    Java.operand? (codeTokens code ++ rest) = some (.int code, rest) := by
  obtain ⟨least, greatest⟩ := small
  cases code with
  | ofNat n =>
    have inside : n < 2147483648 := by
      simp only [Int.ofNat_eq_natCast] at greatest
      omega
    simp [codeTokens, Java.operand?, inside]
  | negSucc n =>
    have inside : n + 1 ≤ 2147483648 := by omega
    simp [codeTokens, Java.operand?, inside]
    omega

private theorem arguments?_code (code : Int) (small : IsInt code) :
    Java.arguments? (codeTokens code ++ [.symbol ')']) = some [.int code] := by
  rw [Java.arguments?, operand?_code code small]
  rfl

private theorem arguments?_code_list (code : Int) (small : IsInt code) :
    Java.arguments? (codeTokens code ++ [.symbol ',', .word "listWithRegionCode", .symbol ')']) =
      some [.int code, .name "listWithRegionCode"] := by
  rw [Java.arguments?, operand?_code code small]
  rfl

private theorem codeTokens_plain (code : Int) : .symbol ';' ∉ codeTokens code := by
  cases code <;> simp [codeTokens]

/-- The tokens of a step are its statement. -/
theorem block?_step (statement : Statement) (small : ∀ code ∈ statement.codes, IsInt code)
    (rest : List Token) :
    Java.block? [] (statement.tokens ++ rest) = (Java.block? [] rest).map (statement.reading ++ ·) := by
  cases statement with
  | newList size =>
    exact Java.block?_statement [.word "listWithRegionCode", .symbol '=', .word "new",
      .word "ArrayList", .symbol '<', .word "String", .symbol '>', .symbol '(', .number size,
      .symbol ')'] (by simp) rfl rest
  | addRegionToList region =>
    exact Java.block?_statement [.word "listWithRegionCode", .symbol '.', .word "add",
      .symbol '(', .text region, .symbol ')'] (by simp) rfl rest
  | putList code =>
    have plain := codeTokens_plain code
    have arguments := arguments?_code_list code (small code List.mem_cons_self)
    have spelled : Java.statement?
        (([.word "countryCodeToRegionCodeMap", .symbol '.', .word "put", .symbol '('] : List Token) ++
          (codeTokens code ++ ([.symbol ',', .word "listWithRegionCode", .symbol ')'] : List Token))) =
        some (.call "countryCodeToRegionCodeMap" "put" [.int code, .name "listWithRegionCode"]) := by
      simp [Java.statement?, arguments]
    have whole := Java.block?_statement _ (by simp [plain]) spelled rest
    simpa [Statement.tokens, Statement.reading] using whole
  | addCode code =>
    have plain := codeTokens_plain code
    have arguments := arguments?_code code (small code List.mem_cons_self)
    have spelled : Java.statement?
        (([.word "countryCodeSet", .symbol '.', .word "add", .symbol '('] : List Token) ++
          (codeTokens code ++ ([.symbol ')'] : List Token))) =
        some (.call "countryCodeSet" "add" [.int code]) := by
      simp [Java.statement?, arguments]
    have whole := Java.block?_statement _ (by simp [plain]) spelled rest
    simpa [Statement.tokens, Statement.reading] using whole
  | addRegion region =>
    exact Java.block?_statement [.word "regionCodeSet", .symbol '.', .word "add",
      .symbol '(', .text region, .symbol ')'] (by simp) rfl rest
  | blank => simp [Statement.tokens, Statement.reading]

private theorem block?_steps (steps : List Statement)
    (small : ∀ statement ∈ steps, ∀ code ∈ statement.codes, IsInt code) (rest : List Token) :
    Java.block? [] (steps.flatMap Statement.tokens ++ rest) =
      (Java.block? [] rest).map (steps.flatMap Statement.reading ++ ·) := by
  induction steps with
  | nil => simp
  | cons statement steps ih =>
    have first := block?_step statement (small statement List.mem_cons_self)
    have others := ih fun statement here => small statement (List.mem_cons_of_mem _ here)
    rw [List.flatMap_cons, List.append_assoc, first, others, Option.map_map, List.flatMap_cons]
    simp only [Function.comp_def, List.append_assoc]

/-- The tokens that declare and make the container, without their semicolon. -/
private def containerTokens (size : Nat) (shape : Shape) : List Token :=
  ([.word (typeNames shape).1] : List Token) ++ typeArguments shape ++
    ([.word (resultName shape), .symbol '=', .word "new", .word (typeNames shape).2] : List Token) ++
    typeArguments shape ++ ([.symbol '(', .number size, .symbol ')'] : List Token)

private theorem statement?_container (size : Nat) (shape : Shape) :
    Java.statement? (containerTokens size shape) =
      some (.declare (typeNames shape).1 (resultName shape) (some (.new (typeNames shape).2 size))) := by
  cases shape <;> rfl

private theorem block?_declarations (size : Nat) (shape : Shape) (rest : List Token) :
    Java.block? [] (declarationTokens size shape ++ rest) =
      (Java.block? [] rest).map (declarations size shape ++ ·) := by
  have plain : .symbol ';' ∉ containerTokens size shape := by
    cases shape <;> simp [containerTokens, typeArguments]
  have spelled : declarationTokens size shape ++ rest =
      containerTokens size shape ++ .symbol ';' :: (listTokens shape ++ rest) := by
    simp [declarationTokens, containerTokens]
  rw [spelled, Java.block?_statement _ plain (statement?_container size shape)]
  cases shape with
  | fullMap entries =>
    have list := Java.block?_statement
      [.word "ArrayList", .symbol '<', .word "String", .symbol '>', .word "listWithRegionCode"]
      (by simp) rfl rest
    have listed : listTokens (.fullMap entries) ++ rest =
        ([.word "ArrayList", .symbol '<', .word "String", .symbol '>', .word "listWithRegionCode"] :
          List Token) ++ .symbol ';' :: rest := rfl
    rw [listed, list, Option.map_map]
    rfl
  | countryCodes codes => rfl
  | regionCodes regions => rfl

private theorem code_of_step (here : statement ∈ fillSteps shape) (named : code ∈ statement.codes) :
    code ∈ codesOf shape := by
  cases shape with
  | fullMap entries =>
    simp only [fillSteps, List.mem_flatMap, List.mem_cons, List.mem_append, List.mem_map] at here
    obtain ⟨entry, among, rfl | ⟨region, -, rfl⟩ | rfl | rfl | none⟩ := here
    · cases named
    · cases named
    · obtain rfl := List.mem_singleton.mp named
      exact List.mem_map.mpr ⟨entry, among, rfl⟩
    · cases named
    · cases none
  | countryCodes codes =>
    simp only [fillSteps, List.mem_append, List.mem_map, List.mem_singleton] at here
    obtain ⟨other, among, rfl⟩ | rfl := here
    · obtain rfl := List.mem_singleton.mp named
      exact among
    · cases named
  | regionCodes regions =>
    simp only [fillSteps, List.mem_append, List.mem_map, List.mem_singleton] at here
    obtain ⟨region, -, rfl⟩ | rfl := here
    · cases named
    · cases named

private theorem step_uncommented (statement : Statement) :
    statement.tokens.filter (fun token => !token.isComment) = statement.tokens := by
  cases statement with
  | putList code | addCode code => cases code <;> rfl
  | newList | addRegionToList | addRegion | blank => rfl

private theorem remarks_dropped (texts : List String) :
    (texts.map Token.comment).filter (fun token => !token.isComment) = [] := by
  simp [Token.isComment]

/-- What is left of an accessor's tokens when the comments are left out. -/
theorem accessorTokens_uncommented (size : Nat) (shape : Shape) :
    (accessorTokens size shape).filter (fun token => !token.isComment) =
      signatureTokens shape ++ (declarationTokens size shape ++
        ((fillSteps shape).flatMap Statement.tokens ++ endingTokens shape)) := by
  have signature : (signatureTokens shape).filter (fun token => !token.isComment) = signatureTokens shape := by
    cases shape <;> rfl
  have declared : (declarationTokens size shape).filter (fun token => !token.isComment) =
      declarationTokens size shape := by
    cases shape <;> rfl
  have ending : (endingTokens shape).filter (fun token => !token.isComment) = endingTokens shape := rfl
  simp only [accessorTokens, List.filter_append, remarks_dropped, signature, declared, ending,
    List.filter_flatMap, step_uncommented, List.nil_append, List.append_assoc]

/-- What is chosen of an accessor's tokens, if neither words nor numbers nor symbols are. -/
theorem accessorTokens_chosen {α : Type} {choose : Token → Option α} (word : ∀ name, choose (.word name) = none)
    (number : ∀ n, choose (.number n) = none) (symbol : ∀ c, choose (.symbol c) = none) (size : Nat)
    (shape : Shape) :
    (accessorTokens size shape).filterMap choose =
      (leadingRemarks shape ++ capacityRemarks size shape.entryCount).filterMap (choose ∘ .comment) ++
        (regionsOf shape).filterMap (choose ∘ .text) := by
  have step (statement : Statement) :
      statement.tokens.filterMap choose = statement.regions.filterMap (choose ∘ .text) := by
    cases statement with
    | putList code | addCode code =>
      cases code <;> simp [Statement.tokens, codeTokens, Statement.regions, word, number, symbol]
    | newList | addRegionToList | addRegion | blank =>
      simp [Statement.tokens, Statement.regions, List.filterMap_cons, word, number, symbol]
  have signature : (signatureTokens shape).filterMap choose = [] := by
    cases shape <;> simp [signatureTokens, typeArguments, word, symbol]
  have declared : (declarationTokens size shape).filterMap choose = [] := by
    cases shape <;> simp [declarationTokens, typeArguments, listTokens, word, number, symbol]
  have ending : (endingTokens shape).filterMap choose = [] := by
    simp [endingTokens, word, symbol]
  simp only [accessorTokens, List.filterMap_append, List.filterMap_map, signature, declared, ending,
    List.filterMap_flatMap, step, List.nil_append, List.append_nil, List.append_assoc]
  rw [← regions_of_steps, List.filterMap_flatMap]

/-- The string literals of an accessor are its regions. -/
theorem accessorTokens_texts (size : Nat) (shape : Shape) :
    (accessorTokens size shape).filterMap Token.text? = regionsOf shape := by
  have texts : Token.text? ∘ Token.text = some := rfl
  have remarks (lines : List String) : lines.filterMap (Token.text? ∘ Token.comment) = [] :=
    List.filterMap_eq_nil_iff.mpr fun _ _ => rfl
  rw [accessorTokens_chosen (fun _ => rfl) (fun _ => rfl) (fun _ => rfl), remarks, texts,
    List.filterMap_some, List.nil_append]

/-- The method that an accessor's tokens are. -/
theorem method?_accessor (size : Nat) (shape : Shape) (small : ∀ code ∈ codesOf shape, IsInt code) :
    Java.method? ((accessorTokens size shape).filter fun token => !token.isComment) =
      some ⟨(typeNames shape).1, accessorName shape, bodyOf size shape⟩ := by
  have signed (rest : List Token) : Java.method? (signatureTokens shape ++ rest) =
      (Java.block? [] rest).map fun body => ⟨(typeNames shape).1, accessorName shape, body⟩ := by
    cases shape <;> rfl
  have ended : Java.block? [] (endingTokens shape) = some [.return (resultName shape)] := by
    cases shape <;> rfl
  rw [accessorTokens_uncommented, signed, block?_declarations, block?_steps _ fun statement here code named =>
    small code (code_of_step here named), ended]
  simp [bodyOf]

/-- The number of entries that the words of a comment state. -/
def entriesIn : List Token → Option Nat
  | .word "are" :: .number count :: .word "different" :: .word "entries" :: _ => some count
  | _ :: rest => entriesIn rest
  | [] => none

/-- The number of entries that a comment states. -/
def statedEntries? : Token → Option Nat
  | .comment text => (Java.lexer.read .idle text.toList).bind entriesIn
  | .word _ | .number _ | .text _ | .symbol _ => none

private theorem capacityRemark_states (size count : Nat) :
    statedEntries? (.comment (" The capacity is set to " ++ size.repr ++ " as there are " ++
      (count.repr ++ " different entries,"))) = some count := by
  have opening : Reads " The capacity is set to ".toList
      [.word "The", .word "capacity", .word "is", .word "set", .word "to"] :=
    .of_plain ⟨by decide, rfl⟩
  have middle : Reads "as there are ".toList [.word "as", .word "there", .word "are"] :=
    .of_plain ⟨by decide, rfl⟩
  have closing : Reads "different entries,".toList [.word "different", .word "entries", .symbol ','] :=
    .of_plain ⟨by decide, rfl⟩
  have counted := ((opening.append (Java.number_reads size space_ends (by decide))).append middle).append
    ((Java.number_reads count space_ends (by decide)).append closing)
  have spaced : " as there are ".toList = [' '] ++ "as there are ".toList := rfl
  have spaced' : " different entries,".toList = [' '] ++ "different entries,".toList := rfl
  have read := Java.Pass.read_of_run counted.lexed rfl
  simp only [statedEntries?, String.toList_append, Nat.toList_repr, spaced, spaced', List.append_assoc]
    at read ⊢
  rw [read]
  rfl

private theorem states_nothing (checked : (Java.lexer.read .idle cs).bind entriesIn = none) :
    statedEntries? (.comment (String.ofList cs)) = none := by
  rw [statedEntries?, String.toList_ofList]
  exact checked

private theorem leadingRemarks_state_nothing (shape : Shape) (remark : String)
    (here : remark ∈ leadingRemarks shape) : statedEntries? (.comment remark) = none := by
  cases shape with
  | fullMap entries =>
    simp only [leadingRemarks, List.mem_cons, List.not_mem_nil, or_false] at here
    rcases here with rfl | rfl | rfl | rfl <;> exact states_nothing rfl
  | countryCodes codes =>
    obtain rfl := List.mem_singleton.mp here
    exact states_nothing rfl
  | regionCodes regions =>
    obtain rfl := List.mem_singleton.mp here
    exact states_nothing rfl

/-- One comment of an accessor states a number of entries. -/
theorem accessorTokens_stated (size : Nat) (shape : Shape) :
    (accessorTokens size shape).filterMap statedEntries? = [shape.entryCount] := by
  have leading : (leadingRemarks shape).filterMap (statedEntries? ∘ Token.comment) = [] :=
    List.filterMap_eq_nil_iff.mpr (leadingRemarks_state_nothing shape)
  have load : statedEntries? (.comment " and this offers a load factor of roughly 0.75.") = none :=
    states_nothing rfl
  have capacity : (capacityRemarks size shape.entryCount).filterMap (statedEntries? ∘ Token.comment) =
      [shape.entryCount] := by
    have states := capacityRemark_states size shape.entryCount
    simp [capacityRemarks, states, load]
  have texts : (regionsOf shape).filterMap (statedEntries? ∘ Token.text) = [] :=
    List.filterMap_eq_nil_iff.mpr fun _ _ => rfl
  rw [accessorTokens_chosen (fun _ => rfl) (fun _ => rfl) (fun _ => rfl), List.filterMap_append, leading,
    capacity, texts, List.nil_append, List.append_nil]

end NumberingPlan.Source
