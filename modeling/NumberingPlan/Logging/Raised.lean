import NumberingPlan.Json.Display

/-! What is reported of an error that was made but never raised, so that it has neither a trace nor a
cause: the name of its kind and what it was made with. -/
namespace NumberingPlan.Logging

/-- The kinds of error that are made for a record. -/
inductive ErrorKind where
  | value
  | key
  | system
  | source
  | codec
  deriving DecidableEq, Repr

/-- An error: its kind and what it was made with. -/
structure Raised where
  kind : ErrorKind
  arguments : List Json

/-- The numbers of system errors that have a kind of their own, by the name of the kind. -/
def systemKinds : List (Int × String) :=
  [(1, "PermissionError"), (2, "FileNotFoundError"), (3, "ProcessLookupError"),
    (4, "InterruptedError"), (10, "ChildProcessError"), (11, "BlockingIOError"),
    (13, "PermissionError"), (17, "FileExistsError"), (20, "NotADirectoryError"),
    (21, "IsADirectoryError"), (32, "BrokenPipeError"), (103, "ConnectionAbortedError"),
    (104, "ConnectionResetError"), (108, "BrokenPipeError"), (110, "TimeoutError"),
    (111, "ConnectionRefusedError"), (114, "BlockingIOError"), (115, "BlockingIOError")]

/-- A value as a whole number, if it is equal to one. -/
def wholeNumber? : Json → Option Int
  | .int n => some n
  | .bool b => some (if b then 1 else 0)
  | .float x => x.toInt?
  | _ => none

/-- What a system error was made with, if there is a number, a reason and perhaps a file. -/
def systemParts? (arguments : List Json) : Option (Json × Json × List Json) :=
  match arguments with
  | [number, reason] => some (number, reason, [])
  | [number, reason, file] | [number, reason, file, _] => some (number, reason, [file])
  | [number, reason, file, _, second] => some (number, reason, [file, second])
  | _ => none

namespace Raised

def name (r : Raised) : String :=
  match r.kind with
  | .value => "ValueError"
  | .key => "KeyError"
  | .source => "phonemeta.core.xml_source.MetadataSourceError"
  | .codec => "phonemeta.io.codec.CodecError"
  | .system =>
    match systemParts? r.arguments with
    | some (number, _, _) =>
      ((wholeNumber? number).bind fun n => systemKinds.lookup n).getD "OSError"
    | none => "OSError"

/-- What the arguments of an error say: nothing, the one argument, or all in parentheses. -/
def plainText (arguments : List Json) : String :=
  match arguments with
  | [] => ""
  | [value] => value.display
  | values => Json.displayTuple values

/-- What an error says. A key is quoted, and a system error shows its number, its reason and its
files. -/
def message (r : Raised) : String :=
  match r.kind, r.arguments with
  | .key, [value] => value.quotedForm
  | .system, arguments =>
    match systemParts? arguments with
    | some (number, reason, files) =>
      let head := "[Errno " ++ number.display ++ "] " ++ reason.display
      match files with
      | [] | [.null] | [.null, _] => head
      | [file] | [file, .null] => head ++ ": " ++ file.quotedForm
      | file :: second :: _ =>
        head ++ ": " ++ file.quotedForm ++ " -> " ++ second.quotedForm
    | none => plainText arguments
  | _, arguments => plainText arguments

/-- The report of an error, which without a trace is one entry: its name and what it says. -/
def report (r : Raised) : String :=
  let text := r.message
  if text.isEmpty then r.name else r.name ++ ": " ++ text

end Raised

end NumberingPlan.Logging
