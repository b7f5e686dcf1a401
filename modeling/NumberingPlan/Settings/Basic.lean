import NumberingPlan.Text.Case
import NumberingPlan.Text.Utf8
import NumberingPlan.Yaml.Value

/-! Settings of a build: how the generated source is framed, and the log. Values come from outside
and may be of any kind, so each is checked against the kind of its field. -/
namespace NumberingPlan

/-- Settings of a build. -/
structure Settings where
  javaPackage : String := "com.google.i18n.phonenumbers"
  generatorName : String := "BuildMetadataProtoFromXml"
  sourceExtension : String := "java"
  logLevel : String := "INFO"
  jsonLogging : Bool := false
  deriving DecidableEq, Repr

namespace Settings

inductive Field where
  | javaPackage
  | generatorName
  | sourceExtension
  | logLevel
  | jsonLogging
  deriving DecidableEq, Repr

def Field.name : Field → String
  | javaPackage => "java_package"
  | generatorName => "generator_name"
  | sourceExtension => "source_extension"
  | logLevel => "log_level"
  | jsonLogging => "json_logging"

/-- The variable that sets a field. -/
def Field.variable : Field → String
  | javaPackage => "PHONEMETA_JAVA_PACKAGE"
  | generatorName => "PHONEMETA_GENERATOR_NAME"
  | sourceExtension => "PHONEMETA_SOURCE_EXTENSION"
  | logLevel => "PHONEMETA_LOG_LEVEL"
  | jsonLogging => "PHONEMETA_JSON_LOGGING"

def fields : List Field := [.javaPackage, .generatorName, .sourceExtension, .logLevel, .jsonLogging]

abbrev Field.Kind : Field → Type
  | .jsonLogging => Bool
  | _ => String

/-- What settings hold in a field. -/
def value (settings : Settings) : (field : Field) → field.Kind
  | .javaPackage => settings.javaPackage
  | .generatorName => settings.generatorName
  | .sourceExtension => settings.sourceExtension
  | .logLevel => settings.logLevel
  | .jsonLogging => settings.jsonLogging

/-- What is wrong with a value. -/
inductive Problem where
  | noText
  | badText
  | noTruthValue
  | badTruthValue
  deriving DecidableEq, Repr

def Problem.name : Problem → String
  | noText => "string_type"
  | badText => "string_unicode"
  | noTruthValue => "bool_type"
  | badTruthValue => "bool_parsing"

/-- A value as a text; bytes are read as UTF-8. -/
def textOf : Yaml.Value → Except Problem String
  | .text s => .ok s
  | .loose _ => .error .badText
  | .bytes bytes =>
    match Utf8.decode bytes with
    | .ok s => .ok s
    | .error _ => .error .badText
  | _ => .error .noText

/-- The truth value of a word, whatever the case of its ASCII letters. -/
def truthOfWord (word : String) : Except Problem Bool :=
  let folded := word.map Char.toLower
  if ["1", "t", "true", "y", "yes", "on"].contains folded then .ok true
  else if ["0", "f", "false", "n", "no", "off"].contains folded then .ok false
  else .error .badTruthValue

/-- One above the greatest whole number of 64 bits. -/
def wordBound : Int := 9223372036854775808

/-- The truth value of a number, which has to be zero or one. Beyond 64 bits it counts as no number
at all. -/
def truthOfInt (n : Int) : Except Problem Bool :=
  if n = 0 then .ok false
  else if n = 1 then .ok true
  else if -wordBound ≤ n ∧ n < wordBound then .error .badTruthValue
  else .error .noTruthValue

/-- A value as a truth value. -/
def truthOf : Yaml.Value → Except Problem Bool
  | .bool b => .ok b
  | .text s => truthOfWord s
  | .loose _ => .error .badText
  | .bytes bytes =>
    match Utf8.decode bytes with
    | .ok s => truthOfWord s
    | .error _ => .error .badTruthValue
  | .int n => truthOfInt n
  | .float x =>
    match x.toInt? with
    | some n => if -wordBound < n ∧ n < wordBound then truthOfInt n else .error .noTruthValue
    | none => .error .noTruthValue
  | _ => .error .noTruthValue

/-- What every field makes of a value. -/
abbrev FieldCheck := (field : Field) → Yaml.Value → Except Problem field.Kind

/-- Every field takes a text but the last, which takes a truth value. -/
def Field.check : FieldCheck
  | .javaPackage | .generatorName | .sourceExtension | .logLevel => textOf
  | .jsonLogging => truthOf

/-- Values under the names of fields, the first of a name counting. -/
abbrev Given := List (String × Yaml.Value)

/-- What becomes of a field for the value that it is given, if any; without one it has its default. -/
def Field.outcome (check : FieldCheck) (field : Field) : Option Yaml.Value → Except Problem field.Kind
  | some given => check field given
  | none => .ok (({} : Settings).value field)

/-- What a field makes of what values say of it. -/
def Field.among (check : FieldCheck) (given : Given) (field : Field) : Except Problem field.Kind :=
  field.outcome check (given.lookup field.name)

/-- What is wrong with the value of a field, if anything. -/
def problem? (check : FieldCheck) (given : Given) (field : Field) : Option Problem :=
  match field.among check given with
  | .ok _ => none
  | .error problem => some problem

/-- Every field whose value is wrong, in order. -/
def problems (check : FieldCheck) (given : Given) : List (Field × Problem) :=
  fields.filterMap fun field => (problem? check given field).map fun problem => (field, problem)

/-- The settings that values give, or every field whose value is wrong. -/
def ofGiven (given : Given) (check : FieldCheck := Field.check) :
    Except (List (Field × Problem)) Settings :=
  let read : Except Problem Settings := do
    return {
      javaPackage := ← Field.among check given .javaPackage
      generatorName := ← Field.among check given .generatorName
      sourceExtension := ← Field.among check given .sourceExtension
      logLevel := ← Field.among check given .logLevel
      jsonLogging := ← Field.among check given .jsonLogging }
  match read with
  | .ok settings => .ok settings
  | .error _ => .error (problems check given)

end Settings

end NumberingPlan
