import NumberingPlan.Logging.Record
import NumberingPlan.Logging.Setup
import NumberingPlan.Settings.Load
import NumberingPlan.Source.Draft
import NumberingPlan.Storage.FileTree
import NumberingPlan.Territory.Markup
import NumberingPlan.Territory.Registry
import NumberingPlan.Text.Charset
import NumberingPlan.Wire.Error

/-! What can go wrong in a build. Every cause has the name of its kind and a wording, which is what
the command reports. -/
namespace NumberingPlan

/-- Why an operation failed. -/
inductive Failure where
  | access (fault : Storage.Fault)
  | wire (error : Wire.Error)
  | markup (fault : Territory.MarkupFault)
  | malformedMarkup (path : String)
  | badCharset (fault : Text.Charset.Fault)
  | missingEntry (missing : Registry.Missing)
  | source (fault : Source.Fault)
  | noInput
  | notText (malformed : Utf8.Malformed)
  | document (fault : Yaml.Fault)
  | invalidSettings (problems : List (Settings.Field × Settings.Problem))
  | unknownLevel (level : Logging.UnknownLevel)
  deriving DecidableEq, Repr

namespace Failure

def ofSettings : Settings.Fault → Failure
  | .access fault => .access fault
  | .notText malformed => .notText malformed
  | .badDocument fault => .document fault
  | .invalid problems => .invalidSettings problems

def refusalKind : Storage.Refusal → String
  | .missing => "FileNotFoundError"
  | .alreadyThere => "FileExistsError"
  | .notDirectory => "NotADirectoryError"
  | .isDirectory => "IsADirectoryError"
  | .nameTooLong => "OSError"

def wireKind : Wire.Error → String
  | .tooWide value _ => if Text.isWritable value then "CodecError" else "ValueError"
  | .unencodable _ => "UnicodeEncodeError"
  | _ => "CodecError"

def charsetKind : Text.Charset.Fault → String
  | .unknown _ | .notText _ => "LookupError"
  | .multiByte => "ValueError"
  | .failed .. => "UnicodeError"
  | .notAscii => "UnicodeDecodeError"

def documentKind : Yaml.Fault → String
  | .malformed => "YAMLError"
  | .characterTooLarge => "OverflowError"
  | .emptyNumber => "IndexError"
  | .notBoolean _ => "KeyError"
  | .notTimestamp => "AttributeError"
  | _ => "ValueError"

def templateKind : Template.Fault → String
  | .unsupported .. | .incomplete | .incompleteKey | .tooBig _ | .undefinedInteger
  | .tooManyDigits => "ValueError"
  | .missingKey _ => "KeyError"
  | .starRange _ | .precisionRange | .characterRange | .infiniteInteger | .doubleRange =>
    "OverflowError"
  | .loneHalf => "UnicodeEncodeError"
  | _ => "TypeError"

def sourceKind : Source.Fault → String
  | .importsTaken | .bodyTaken => "BuilderConsumedError"
  | .noShape _ => "TypeError"
  | .badTemplate fault => templateKind fault

def timeKind : Time.Fault → String
  | .outOfRange => "OverflowError"
  | .calendarRange => "OSError"
  | .yearRange _ | .undefined => "ValueError"
  | .notANumber _ => "TypeError"

def recordKind : Logging.RecordFault → String
  | .badTime fault => timeKind fault
  | .badTemplate fault => templateKind fault

def kind : Failure → String
  | access .nullByte => "ValueError"
  | access (.refused refusal _) => refusalKind refusal
  | wire error => wireKind error
  | markup (.badLengths .tooMany) => "OverflowError"
  | markup _ | malformedMarkup _ => "MetadataSourceError"
  | badCharset fault => charsetKind fault
  | noInput | unknownLevel _ => "ValueError"
  | missingEntry _ => "KeyError"
  | source fault => sourceKind fault
  | notText _ => "UnicodeDecodeError"
  | document fault => documentKind fault
  | invalidSettings _ => "ValidationError"

def message : Failure → String
  | access fault => fault.message
  | wire error => error.message
  | markup fault => fault.message
  | malformedMarkup path => "Failed to parse " ++ path
  | badCharset fault => fault.message
  | missingEntry missing => missing.message
  | source fault => fault.message
  | noInput => "An input file is required unless the bundled source is used"
  | notText malformed => malformed.message
  | document fault => fault.message
  | invalidSettings problems =>
    if problems.length == 1 then "1 validation error for BuildSettings"
    else s!"{problems.length} validation errors for BuildSettings"
  | unknownLevel level => level.message

/-- Whether the wording is a key, which reports quote. -/
def isKey : Failure → Bool
  | missingEntry _ | document (.notBoolean _) => true
  | source (.badTemplate (.missingKey _)) => true
  | _ => false

/-- What a report says of a failure: its kind, and its wording if it has one. -/
def report (f : Failure) : String :=
  let text := if f.isKey then Text.quoted f.message else f.message
  if f.kind == "YAMLError" then f.kind else f.kind ++ ": " ++ text

end Failure

end NumberingPlan
