import NumberingPlan.Logging.Record
import NumberingPlan.Logging.Setup

/-! Entries that the program itself logs, and the line that each becomes. -/
namespace NumberingPlan.Logging

/-- An entry: its severity, who logs it, what it says, the output key that it is about if there is
one, and whether it reports an error. -/
structure Entry where
  severity : Severity
  logger : String
  message : String
  outputKey : Option String := none
  failed : Bool := false
  deriving DecidableEq, Repr

/-- The further attributes of an entry. -/
def Entry.extra (e : Entry) : List (String × Json) :=
  match e.outputKey with
  | some key => [("output_key", .str key)]
  | none => []

/-- The line of an entry, without the report of its error in the plain style. -/
def Entry.line (style : Style) (time report : String) (e : Entry) : String :=
  match style with
  | .plain => time ++ " " ++ e.severity.name ++ " " ++ e.logger ++ ": " ++ e.message
  | .json =>
    Logging.line (payload time (.str e.severity.name) (.str e.logger) e.message
      (if e.failed then some report else none) e.extra)

/-- Whether a log at a level takes an entry. -/
def Entry.passes (level : Int) (e : Entry) : Bool := level ≤ e.severity.level

end NumberingPlan.Logging
