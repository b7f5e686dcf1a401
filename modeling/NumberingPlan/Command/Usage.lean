import NumberingPlan.Command.Argument
import NumberingPlan.Text.Plain
import NumberingPlan.Text.Quoted

/-! What the command says of itself and of a use that it cannot make sense of. -/
namespace NumberingPlan.Command

def commandName : String := "phonemeta-build"

/-- What is wrong with the value of an option. -/
inductive ValueProblem where
  | notNumber (text : String)
  | notChoice (text : String)
  | missingFile (text : String)
  | fileIsDirectory (text : String)
  | directoryIsFile (text : String)
  deriving DecidableEq, Repr

def ValueProblem.message : ValueProblem → String
  | notNumber text => Text.quoted text ++ " is not a valid integer."
  | notChoice text => Text.quoted text ++ " is not one of 'true', 'false'."
  | missingFile text => "File " ++ Text.quoted text ++ " does not exist."
  | fileIsDirectory text => "File " ++ Text.quoted text ++ " is a directory."
  | directoryIsFile text => "Directory " ++ Text.quoted text ++ " is a file."

/-- Why a use of the command makes no sense. -/
inductive UsageFault where
  | illegal (token : String)
  | argument (fault : ArgumentFault)
  | badValue (param : Param) (problem : ValueProblem)
  | missing (param : Param)
  deriving DecidableEq, Repr

/-- The names that an unknown name may stand for, as a hint. -/
def hint (name : String) : String :=
  match Text.closest name names with
  | [] => ""
  | [other] => " Did you mean " ++ Text.quoted other ++ "?"
  | several =>
    let sorted := several.mergeSort fun a b => !(b < a)
    " (Possible options: " ++ String.intercalate ", " (sorted.map Text.quoted) ++ ")"

def UsageFault.message : UsageFault → String
  | illegal token => "Illegal command line parameter: " ++ token
  | argument (.unknown name) => "No such option " ++ Text.quoted name ++ "." ++ hint name
  | argument (.valueForFlag flag) =>
    "Option " ++ Text.quoted flag.name ++ " does not take a value."
  | badValue param problem =>
    "Invalid value for " ++ Text.quoted param.name ++ ": " ++ problem.message
  | missing param => "Missing option " ++ Text.quoted param.name ++ "."

/-- The first line of help. -/
def usageLine : String := "Usage: " ++ commandName ++ " [OPTIONS]\n"

def shownError (message : String) : String := Text.withoutStyles ("Error: " ++ message ++ "\n")

/-- A fault as it is shown: after how the command is used, unless a flag was given a value. -/
def UsageFault.text (fault : UsageFault) : String :=
  let error := shownError fault.message
  match fault with
  | argument (.valueForFlag _) => error
  | _ => usageLine ++ "Try '" ++ commandName ++ " --help' for help.\n\n" ++ error

/-- What the flag for the version shows. -/
def versionText : String := "phonemeta, version 0.1.0\n"

/-- What the flag for help shows. -/
def helpText : String :=
  usageLine ++ "
  Convert phone number metadata into build artifacts.

Options:
  --version                  Show the version and exit.
  --input-file FILE          Read phone number metadata in XML format from PATH
                             (unless --bundled=true).
  --output-dir DIRECTORY     Use PATH as the root directory for output files.
                             [required]
  --data-prefix TEXT         Basename (relative to --output-dir) for the per-
                             region metadata files.  [required]
  --mapping-class TEXT       Store country code mappings in the class NAME,
                             written to --output-dir.  [required]
  --copyright INTEGER        Use YEAR in generated copyright headers.
                             [required]
  --lite-build [true|false]  Omit example numbers from the generated metadata.
                             [default: false]
  --bundled [true|false]     Read metadata from the phonenumbers package instead
                             of --input-file.  [default: false]
  --config FILE              YAML config path.
  --help                     Show this message and exit.

  Example:
    phonemeta-build \\
      --input-file=resources/PhoneNumberMetadata.xml \\
      --output-dir=java/libphonenumber/src/com/google/i18n/phonenumbers \\
      --data-prefix=data/PhoneNumberMetadataProto \\
      --mapping-class=CountryCodeToRegionCodeMap \\
      --copyright=2010 \\
      --lite-build=false
"

end NumberingPlan.Command
