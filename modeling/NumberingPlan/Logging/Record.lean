import NumberingPlan.Json.Printer
import NumberingPlan.Logging.Level
import NumberingPlan.Logging.Raised
import NumberingPlan.Template
import NumberingPlan.Time.Instant

/-! Log records and the one line of JSON that each becomes. The line holds the time, the level, the
logger and the message, the report of an error if there is one, and every further attribute of the
record. -/
namespace NumberingPlan.Logging

/-- A log record. Its attributes may be set to any value, also those that it is made with. The report
of an error is any text: the trace and the causes of whatever was raised, line after line. -/
structure Record where
  logger : Json
  levelName : Json
  message : Json
  arguments : Option Template.Arguments
  created : Json
  report : Option String
  extra : List (String × Json)

/-- Why a record has no line. -/
inductive RecordFault where
  | badTime (fault : Time.Fault)
  | badTemplate (fault : Template.Fault)
  deriving DecidableEq, Repr

def RecordFault.message : RecordFault → String
  | badTime fault => fault.message
  | badTemplate fault => fault.message

/-- The attributes that every record has. They are no part of its line but for those that the line
begins with. -/
def reservedNames : List String :=
  ["name", "msg", "args", "levelname", "levelno", "pathname", "filename", "module", "exc_info",
    "exc_text", "stack_info", "lineno", "funcName", "created", "msecs", "relativeCreated",
    "thread", "threadName", "processName", "process", "taskName"]

/-- Whether a further attribute of this name is part of the line. -/
def isShown (name : String) : Bool := !reservedNames.contains name && !name.startsWith "_"

/-- The fields of a line: time, level, logger and message, the report of an error, and the further
attributes. An attribute with the name of an earlier field takes its place. -/
def payload (time : String) (level logger : Json) (message : String) (report : Option String)
    (extra : List (String × Json)) : List (String × Json) :=
  let head : List (String × Json) :=
    [("ts", .str time), ("level", level), ("logger", logger), ("msg", .str message)]
  let head := match report with
    | some text => head ++ [("exc_info", .str text)]
    | none => head
  (extra.filter fun (name, _) => isShown name).foldl
    (fun fields (name, value) => Json.setField fields name value) head

/-- The line of fields. -/
def line (fields : List (String × Json)) : String := (Json.obj fields).render .unicode

namespace Record

/-- What a template is filled with, given a list of values. A single object that is not empty is
looked up by key. -/
def argumentsOf (values : List Json) : Option Template.Arguments :=
  match values with
  | [] => none
  | [.obj (field :: fields)] => some (.one (.obj (field :: fields)))
  | values => some (.many values)

/-- Reports an error that was made but never raised. -/
def reporting (r : Record) (error : Raised) : Record := { r with report := some error.report }

def set (r : Record) (name : String) (value : Json) : Record :=
  match name with
  | "name" => { r with logger := value }
  | "levelname" => { r with levelName := value }
  | "msg" => { r with message := value }
  | "args" => { r with arguments := if value.truthy then some (.one value) else none }
  | "created" => { r with created := value }
  | "exc_info" => { r with report := if value.truthy then r.report else none }
  | _ =>
    if reservedNames.contains name then r
    else { r with extra := Json.setField r.extra name value }

/-- The message of a record: its text, with the places filled if there are arguments. -/
def text (r : Record) : Except RecordFault String :=
  let made : Except Template.Fault String := do
    let template ← Template.shown Json.display r.message
    match r.arguments with
    | none => return template
    | some arguments => Template.format template arguments
  made.mapError .badTemplate

def time (r : Record) : Except RecordFault String :=
  match Time.Instant.ofValue r.created >>= Time.Instant.text with
  | .ok s => .ok s
  | .error fault => .error (.badTime fault)

/-- The fields of a record's line. -/
def fields (r : Record) : Except RecordFault (List (String × Json)) := do
  let time ← r.time
  let text ← r.text
  return payload time r.levelName r.logger text r.report r.extra

/-- The line of a record, unless a number in it has too many digits. -/
def format (r : Record) : Except RecordFault String := do
  let fields ← r.fields
  if (Json.obj fields).isWritable then return line fields
  else throw (.badTemplate .tooManyDigits)

end Record

end NumberingPlan.Logging
