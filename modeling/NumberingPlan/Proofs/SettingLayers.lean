import NumberingPlan.Settings.Load
import NumberingPlan.Proofs.ListReading

/-! Which layer a setting comes from. The values of three layers are laid over each other as one list, and the
fields are read from it together; here each field is found to have the value of the first layer that has it,
whatever the others hold, and to be valid or not for itself. That goes for any reader of a document or of an
environment file and for any check of a field. -/
namespace NumberingPlan

namespace Yaml

/-- Whether a text is a document whose root is a mapping. -/
def RootIsMapping (text : List Char) : Prop :=
  ∃ document pairs, compose text = .ok (some document) ∧ document.root = .map .map pairs

private theorem load_of_other_root {text : List Char} {found : Option (List (String × Value))}
    (other : ¬RootIsMapping text) (loaded : load text = .ok found) : found = none := by
  obtain ⟨composed, here, loaded⟩ := bind_eq_ok loaded
  cases composed with
  | none =>
    cases loaded
    rfl
  | some document =>
    dsimp only at loaded
    split at loaded
    · rename_i pairs root
      exact absurd ⟨document, pairs, here, root⟩ other
    · obtain ⟨_, _, loaded⟩ := bind_eq_ok loaded
      obtain ⟨_, _, loaded⟩ := bind_eq_ok loaded
      cases loaded
      rfl

end Yaml

namespace Settings

/-- The settings that hold given values. -/
def ofValues (held : (field : Field) → field.Kind) : Settings :=
  ⟨held .javaPackage, held .generatorName, held .sourceExtension, held .logLevel, held .jsonLogging⟩

private theorem value_ofValues (held : (field : Field) → field.Kind) (field : Field) :
    (ofValues held).value field = held field := by
  cases field <;> rfl

/-- The value that wins for a field: that of the environment, an empty text included, or that of the
environment file, or that of the document. -/
def winning (environment file : Environment) (document : Given) (field : Field) : Option Yaml.Value :=
  match environment.lookup field.variable, file.lookup field.variable with
  | some text, _ => some (.text text)
  | none, some text => some (.text text)
  | none, none => document.lookup field.name

variable {environment file : Environment} {document given : Given} {field : Field} {settings : Settings}
  {problem : Problem} {check : FieldCheck} {readers : Readers}

/-! ### Layers -/

/-- A field is found under its name, so no two fields share one. -/
theorem find_name (field : Field) : fields.find? (·.name == field.name) = some field := by
  cases field <;> rfl

private theorem name_injective {field' : Field} (same : field.name = field'.name) : field = field' := by
  have found := find_name field
  rw [same, find_name field'] at found
  exact (Option.some.inj found).symm

private theorem mem_fields (field : Field) : field ∈ fields := by
  cases field <;> decide

/-- Values listed under the names of fields are found there. -/
theorem lookup_filterMap_name (held : Field → Option Yaml.Value) (listed : List Field) (field : Field) :
    (listed.filterMap fun other => (held other).map fun value => (other.name, value)).lookup field.name =
      if field ∈ listed then held field else none := by
  induction listed with
  | nil => rfl
  | cons first rest ih =>
    by_cases same : field = first
    · subst same
      rw [if_pos List.mem_cons_self]
      cases holds : held field with
      | some value => simp [holds]
      | none =>
        -- A later listing of the same field holds no more.
        rw [List.filterMap_cons_none (by rw [holds]; rfl), ih, holds, ite_self]
    · have others : field ∈ first :: rest ↔ field ∈ rest := by simp [same]
      have named : (field.name == first.name) = false := beq_false_of_ne fun name => same (name_injective name)
      rw [if_congr others rfl rfl, ← ih]
      cases holds : held first with
      | some value => simp [holds, List.lookup_cons, named]
      | none => rw [List.filterMap_cons_none (by rw [holds]; rfl)]

private theorem lookup_givenBy (environment : Environment) (field : Field) :
    (givenBy environment).lookup field.name = (environment.lookup field.variable).map .text := by
  have listed := lookup_filterMap_name (fun field => (environment.lookup field.variable).map .text) fields field
  rw [if_pos (mem_fields field)] at listed
  rw [← listed, givenBy]
  simp only [Option.map_map, Function.comp_def]

/-- Laying the layers over each other puts the value that wins first. -/
theorem lookup_overlay (environment file : Environment) (document : Given) (field : Field) :
    (overlay environment file document).lookup field.name = winning environment file document field := by
  rw [overlay, List.lookup_append, List.lookup_append, lookup_givenBy, lookup_givenBy, winning]
  cases environment.lookup field.variable with
  | some text => rfl
  | none => cases file.lookup field.variable <;> rfl

/-! ### Fields -/

/-- What is wrong with a field is what its check finds wrong with its value. -/
theorem problem?_eq_some_iff : problem? check given field = some problem ↔
    field.outcome check (given.lookup field.name) = .error problem := by
  rw [problem?, Field.among]
  cases field.outcome check (given.lookup field.name) <;> simp

/-- Every problem belongs to the field whose value has it. -/
theorem mem_problems_iff :
    (field, problem) ∈ problems check given ↔ field.outcome check (given.lookup field.name) = .error problem := by
  rw [problems, List.mem_filterMap, ← problem?_eq_some_iff]
  constructor
  · rintro ⟨other, -, told⟩
    obtain ⟨found, wrong, same⟩ := Option.map_eq_some_iff.mp told
    cases same
    exact wrong
  · intro wrong
    exact ⟨field, mem_fields field, by rw [wrong]; rfl⟩

/-- The fields that are told of are in the order of fields, each once. -/
theorem problems_sublist (check : FieldCheck) (given : Given) :
    ((problems check given).map (·.1)).Sublist fields := by
  have told : (problems check given).map (·.1) = fields.filter fun field => (problem? check given field).isSome := by
    rw [problems, List.map_filterMap, ← List.filterMap_eq_filter]
    refine List.filterMap_congr fun field _ => ?_
    cases wrong : problem? check given field <;> simp [Option.guard, wrong]
  rw [told]
  exact List.filter_sublist

/-- Settings are made exactly of what every field makes of its value. -/
theorem ofGiven_eq_ok_iff : ofGiven given check = .ok settings ↔
    ∀ field : Field, field.outcome check (given.lookup field.name) = .ok (settings.value field) := by
  unfold ofGiven
  extract_lets read
  constructor
  · intro made
    cases done : read with
    | error problem =>
      rw [done] at made
      cases made
    | ok found =>
      rw [done] at made
      cases made
      obtain ⟨package, readPackage, done⟩ := bind_eq_ok done
      obtain ⟨generator, readGenerator, done⟩ := bind_eq_ok done
      obtain ⟨sourceExtension, readExtension, done⟩ := bind_eq_ok done
      obtain ⟨level, readLevel, done⟩ := bind_eq_ok done
      obtain ⟨json, readJson, done⟩ := bind_eq_ok done
      cases done
      intro field
      cases field
      · exact readPackage
      · exact readGenerator
      · exact readExtension
      · exact readLevel
      · exact readJson
  · intro each
    have package : Field.among check given .javaPackage = _ := each .javaPackage
    have generator : Field.among check given .generatorName = _ := each .generatorName
    have sourceExtension : Field.among check given .sourceExtension = _ := each .sourceExtension
    have level : Field.among check given .logLevel = _ := each .logLevel
    have json : Field.among check given .jsonLogging = _ := each .jsonLogging
    have made : read = .ok settings := by
      simp only [read, package, generator, sourceExtension, level, json]
      rfl
    rw [made]

private theorem ofGiven_eq_error (none : ∀ settings, ofGiven given check ≠ .ok settings) :
    ofGiven given check = .error (problems check given) := by
  cases made : ofGiven given check with
  | ok settings => exact absurd made (none settings)
  | error told =>
    unfold ofGiven at made
    dsimp only at made
    split at made
    · cases made
    · cases made
      rfl

theorem exists_outcome_eq_ok_iff {held : Option Yaml.Value} : (∃ kept, field.outcome check held = .ok kept) ↔
    ∀ value, held = some value → ∃ kept, check field value = .ok kept := by
  cases held with
  | none => exact ⟨fun _ => nofun, fun _ => ⟨_, rfl⟩⟩
  | some value =>
    constructor
    · rintro kept _ ⟨⟩
      exact kept
    · exact fun valid => valid value rfl

theorem outcome_eq_error_iff {held : Option Yaml.Value} : field.outcome check held = .error problem ↔
    ∃ value, held = some value ∧ check field value = .error problem := by
  cases held with
  | none => exact ⟨nofun, fun ⟨_, absent, _⟩ => nomatch absent⟩
  | some value =>
    constructor
    · exact fun wrong => ⟨value, rfl, wrong⟩
    · rintro ⟨_, ⟨⟩, wrong⟩
      exact wrong

/-- Fields are valid each for itself: settings are made as soon as every field makes something of its value. -/
theorem exists_ofGiven_eq_ok_iff : (∃ settings, ofGiven given check = .ok settings) ↔
    ∀ field : Field, ∃ kept, field.outcome check (given.lookup field.name) = .ok kept := by
  constructor
  · rintro ⟨settings, made⟩ field
    exact ⟨settings.value field, ofGiven_eq_ok_iff.mp made field⟩
  · intro each
    obtain ⟨held, reads⟩ := Classical.axiomOfChoice each
    refine ⟨ofValues held, ofGiven_eq_ok_iff.mpr fun field => ?_⟩
    rw [value_ofValues]
    exact reads field

/-- Values under other names, and later ones under the names of fields, do not count. -/
theorem ofGiven_congr {given' : Given} (same : ∀ field : Field, given.lookup field.name = given'.lookup field.name) :
    ofGiven given check = ofGiven given' check := by
  have wrong : problems check given = problems check given' := by
    refine List.filterMap_congr fun field _ => congrArg _ (Option.ext fun problem => ?_)
    rw [problem?_eq_some_iff, problem?_eq_some_iff, same]
  have right : ∀ settings, ofGiven given check = .ok settings ↔ ofGiven given' check = .ok settings := by
    intro settings
    rw [ofGiven_eq_ok_iff, ofGiven_eq_ok_iff]
    exact forall_congr' fun field => by rw [same]
  by_cases made : ∃ settings, ofGiven given check = .ok settings
  · obtain ⟨settings, made⟩ := made
    rw [made, (right settings).mp made]
  · have unmade : ∀ settings, ofGiven given check ≠ .ok settings := fun settings done => made ⟨settings, done⟩
    rw [ofGiven_eq_error unmade, ofGiven_eq_error fun settings => mt (right settings).mpr (unmade settings), wrong]

/-! ### Loading -/

variable {tree : Storage.FileTree} {documentGiven fileGiven : Option Storage.Path} {path : Storage.Path}

private theorem firstNonempty_eq (a b : Option String) :
    firstNonempty a b = (a.filter (· ≠ "")).or (b.filter (· ≠ "")) := by
  have written : (fun s : String => !s.isEmpty) = fun s => decide (s ≠ "") := by
    funext s
    by_cases blank : s = "" <;> simp [blank]
  unfold firstNonempty
  rw [written]
  cases a with
  | none => rfl
  | some s => by_cases blank : s = "" <;> simp [Option.filter, blank]

/-- The document is where the call says, or else where the first variable that is not empty does. -/
theorem documentPath_eq : documentPath documentGiven environment file = documentGiven.or
    ((((environment.lookup documentVariable).filter (· ≠ "")).or
      ((file.lookup documentVariable).filter (· ≠ ""))).map Storage.Path.ofString) := by
  cases documentGiven with
  | some path => rfl
  | none =>
    rw [documentPath, firstNonempty_eq]
    rfl

private theorem readDocument_of_missing (missing : isThere tree path = .ok false) :
    readDocument tree (some path) readers = .ok [] := by
  unfold readDocument
  dsimp only
  rw [missing]
  rfl

private theorem isThere_of_readText {text : List Char} (held : readText tree path = .ok text) :
    isThere tree path = .ok true := by
  unfold isThere Storage.FileTree.exists?
  cases looked : tree.look path.toString with
  | ok node => rfl
  | error fault =>
    have unread : tree.read path.toString = .error fault := by
      rw [Storage.FileTree.read, looked]
      rfl
    rw [readText, unread] at held
    cases held

/-- A document that is there holds the values of its mapping, the last of a name first. -/
theorem readDocument_eq_ok_iff {text : List Char} (held : readText tree path = .ok text) :
    readDocument tree (some path) readers = .ok document ↔
      ∃ values, readers.document text = .ok values ∧ document = (values.getD []).reverse := by
  have opened : readDocument tree (some path) readers =
      ((readers.document text).map fun values => (values.getD []).reverse).mapError .badDocument := by
    unfold readDocument
    dsimp only
    rw [isThere_of_readText held, held]
    cases loaded : readers.document text <;> simp [bind, Except.bind, loaded] <;> rfl
  rw [opened]
  cases readers.document text with
  | error fault => exact ⟨nofun, fun ⟨_, absent, _⟩ => nomatch absent⟩
  | ok values =>
    constructor
    · rintro ⟨⟩
      exact ⟨values, rfl, rfl⟩
    · rintro ⟨_, ⟨⟩, rfl⟩
      rfl

theorem load_eq (known : readEnvironment tree environment (fileGiven.getD defaultFile) readers = .ok file)
    (read : readDocument tree (documentPath documentGiven environment file) readers = .ok document) :
    load tree environment documentGiven fileGiven readers =
      (ofGiven (overlay environment file document) readers.check).mapError .invalid := by
  unfold load
  rw [known]
  cases made : ofGiven (overlay environment file document) readers.check <;>
    simp [bind, Except.bind, read, made] <;> rfl

/-- What comes of the values that win. -/
structure SettledBy (check : FieldCheck) (won : Field → Option Yaml.Value)
    (outcome : Except Fault Settings) : Prop where
  /-- Settings hold what each field makes of its value, or its default. -/
  ok_iff : ∀ settings, outcome = .ok settings ↔
    ∀ field : Field, field.outcome check (won field) = .ok (settings.value field)
  /-- There are settings exactly if every value is valid for its field. -/
  succeeds_iff : (∃ settings, outcome = .ok settings) ↔
    ∀ field value, won field = some value → ∃ kept, check field value = .ok kept
  /-- If there are none, the fields whose value is invalid are told of, in order and each once. -/
  tells : (∃ settings, outcome = .ok settings) ∨ ∃ problems, outcome = .error (.invalid problems) ∧
    (problems.map (·.1)).Sublist fields ∧ ∀ field problem, (field, problem) ∈ problems ↔
      ∃ value, won field = some value ∧ check field value = .error problem

private theorem load_settledBy
    (known : readEnvironment tree environment (fileGiven.getD defaultFile) readers = .ok file)
    (read : readDocument tree (documentPath documentGiven environment file) readers = .ok document) :
    SettledBy readers.check (winning environment file document)
      (load tree environment documentGiven fileGiven readers) := by
  have loaded := load_eq known read
  have made_iff : ∀ settings, load tree environment documentGiven fileGiven readers = .ok settings ↔
      ofGiven (overlay environment file document) readers.check = .ok settings := by
    intro settings
    rw [loaded]
    cases ofGiven (overlay environment file document) readers.check <;> simp [Except.mapError]
  refine ⟨fun settings => ?_, ?_, ?_⟩
  · simp only [made_iff, ofGiven_eq_ok_iff, lookup_overlay]
  · simp only [made_iff, exists_ofGiven_eq_ok_iff, lookup_overlay, exists_outcome_eq_ok_iff]
  · by_cases made : ∃ settings, load tree environment documentGiven fileGiven readers = .ok settings
    · exact .inl made
    · refine .inr ⟨problems readers.check (overlay environment file document), ?_, problems_sublist _ _, ?_⟩
      · rw [loaded, ofGiven_eq_error fun settings done => made ⟨settings, (made_iff settings).mpr done⟩]
        rfl
      · intro field problem
        rw [mem_problems_iff, lookup_overlay, outcome_eq_error_iff]

/-- Where the document is, and what it holds. -/
structure DocumentFound (readers : Readers) (tree : Storage.FileTree) (environment file : Environment)
    (documentGiven : Option Storage.Path) : Prop where
  /-- It is where the call says, or where the first variable says that is not empty. -/
  path : documentPath documentGiven environment file = documentGiven.or
    ((((environment.lookup documentVariable).filter (· ≠ "")).or
      ((file.lookup documentVariable).filter (· ≠ ""))).map Storage.Path.ofString)
  unnamed : readDocument tree none readers = .ok []
  missing : ∀ path, isThere tree path = .ok false → readDocument tree (some path) readers = .ok []
  /-- It holds the values of its mapping, the last of a name counting. -/
  mapping : ∀ path text, readText tree path = .ok text → ∀ document,
    readDocument tree (some path) readers = .ok document ↔
      ∃ values, readers.document text = .ok values ∧ document = (values.getD []).reverse
  noMapping : ∀ path text, readText tree path = .ok text → readers.document text = .ok none →
    readDocument tree (some path) readers = .ok []

/-- Where every setting comes from, with an environment file that holds `file`. -/
structure Layered (readers : Readers) (tree : Storage.FileTree) (environment file : Environment)
    (documentGiven fileGiven : Option Storage.Path) : Prop where
  found : DocumentFound readers tree environment file documentGiven
  /-- Once the document is read, what comes of loading is settled by the first layer that has each field. -/
  settled : ∀ document, readDocument tree (documentPath documentGiven environment file) readers = .ok document →
    SettledBy readers.check (winning environment file document)
      (load tree environment documentGiven fileGiven readers)
  /-- A call in which the same values win, whatever else it finds, has the same outcome. -/
  undisturbed : ∀ document, readDocument tree (documentPath documentGiven environment file) readers = .ok document →
    ∀ (tree' : Storage.FileTree) (environment' file' : Environment)
      (documentGiven' fileGiven' : Option Storage.Path) (document' : Given),
      readEnvironment tree' environment' (fileGiven'.getD defaultFile) readers = .ok file' →
      readDocument tree' (documentPath documentGiven' environment' file') readers = .ok document' →
      (∀ field, winning environment' file' document' field = winning environment file document field) →
      load tree' environment' documentGiven' fileGiven' readers =
        load tree environment documentGiven fileGiven readers
  /-- The program's own reader gives no mapping for a text whose root is none. -/
  otherRoot : ∀ text found, ¬Yaml.RootIsMapping text → Yaml.load text = .ok found → found = none

/-- Whatever reads a document and an environment file and checks the fields: each setting is of the first
layer that has it. -/
theorem each_setting_is_of_its_first_layer (readers : Readers) (tree : Storage.FileTree)
    (environment file : Environment) (documentGiven fileGiven : Option Storage.Path)
    (known : readEnvironment tree environment (fileGiven.getD defaultFile) readers = .ok file) :
    Layered readers tree environment file documentGiven fileGiven where
  found :=
    { path := documentPath_eq
      unnamed := rfl
      missing := fun _ => readDocument_of_missing
      mapping := fun _ _ held _ => readDocument_eq_ok_iff held
      noMapping := fun _ _ held other => (readDocument_eq_ok_iff held).mpr ⟨none, other, rfl⟩ }
  settled _ read := load_settledBy known read
  undisturbed document read := by
    intro tree' environment' file' documentGiven' fileGiven' document' known' read' same
    have given_congr : ofGiven (overlay environment' file' document') readers.check =
        ofGiven (overlay environment file document) readers.check := by
      refine ofGiven_congr fun field => ?_
      rw [lookup_overlay, lookup_overlay, same]
    rw [load_eq known read, load_eq known' read', given_congr]
  otherRoot _ _ := Yaml.load_of_other_root

deriving instance DecidableEq for Yaml.Value

/-- An environment file empties the log level and names a document, in which that level and the switch of the
log are invalid. -/
def layeredTree : Storage.FileTree where
  nodes := [(["home", ".env"], .file (Utf8.encode "PHONEMETA_LOG_LEVEL=\nPHONEMETA_CONFIG=s.yml\n")),
    (["home", "s.yml"], .file (Utf8.encode
      "json_logging: maybe\nlog_level: [a]\nother: x\nsource_extension: kt\n"))]
  home := ["home"]

/-- The empty path does not count and the empty level does, so both invalid values are harmless where the
environment sets the switch; where it does not, the switch alone is told of. -/
theorem invalid_values_count_where_they_win :
    load layeredTree [("PHONEMETA_JSON_LOGGING", "on"), ("PHONEMETA_CONFIG", "")] none none =
      .ok { sourceExtension := "kt", logLevel := "", jsonLogging := true } ∧
    ∃ problems, load layeredTree [("PHONEMETA_CONFIG", "")] none none = .error (.invalid problems) ∧
      (.jsonLogging, .badTruthValue) ∈ problems ∧ ∀ problem, (.logLevel, problem) ∉ problems := by
  have known : readEnvironment layeredTree [("PHONEMETA_JSON_LOGGING", "on"), ("PHONEMETA_CONFIG", "")] defaultFile =
      .ok [("PHONEMETA_CONFIG", "s.yml"), ("PHONEMETA_LOG_LEVEL", "")] := rfl
  have known' : readEnvironment layeredTree [("PHONEMETA_CONFIG", "")] defaultFile =
      .ok [("PHONEMETA_CONFIG", "s.yml"), ("PHONEMETA_LOG_LEVEL", "")] := rfl
  have read : readDocument layeredTree (some ⟨.here, ["s.yml"]⟩) =
      .ok [("source_extension", .text "kt"), ("other", .text "x"), ("log_level", .collection),
        ("json_logging", .text "maybe")] := by decide +kernel
  have word : truthOfWord "on" = .ok true := by decide +kernel
  have noWord : truthOfWord "maybe" = .error .badTruthValue := by decide +kernel
  have layered := each_setting_is_of_its_first_layer {} layeredTree _ _ none none known
  have layered' := each_setting_is_of_its_first_layer {} layeredTree _ _ none none known'
  constructor
  · refine ((layered.settled _ read).ok_iff _).mpr fun field => ?_
    cases field
    case jsonLogging => exact word
    all_goals rfl
  · obtain ⟨settings, made⟩ | ⟨problems, told, -, named⟩ := (layered'.settled _ read).tells
    · cases noWord.symm.trans (((layered'.settled _ read).ok_iff settings).mp made .jsonLogging)
    · refine ⟨problems, told, (named _ _).mpr ⟨_, rfl, noWord⟩, ?_⟩
      intro problem listed
      obtain ⟨value, won, wrong⟩ := (named _ _).mp listed
      cases won
      cases wrong

end Settings

end NumberingPlan
