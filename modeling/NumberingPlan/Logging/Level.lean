import NumberingPlan.Text.Case

/-! Levels of log records. A level is a number; some numbers have a name, and some names are second
names of a number. -/
namespace NumberingPlan.Logging

/-- The levels that the program itself logs at. -/
inductive Severity where
  | debug
  | info
  | warning
  | error
  deriving DecidableEq, Repr

def Severity.level : Severity → Int
  | debug => 10
  | info => 20
  | warning => 30
  | error => 40

def levelNames : List (Int × String) :=
  [(50, "CRITICAL"), (40, "ERROR"), (30, "WARNING"), (20, "INFO"), (10, "DEBUG"), (0, "NOTSET")]

/-- The levels of names: each name of a level, and the second names. -/
def namedLevels : List (String × Int) :=
  levelNames.map (fun (level, name) => (name, level)) ++ [("FATAL", 50), ("WARN", 30)]

def levelName (level : Int) : String := (levelNames.lookup level).getD s!"Level {level}"

/-- The level of a name, which has to be in upper case. -/
def level? (name : String) : Option Int := namedLevels.lookup name

def Severity.name (s : Severity) : String := levelName s.level

end NumberingPlan.Logging
