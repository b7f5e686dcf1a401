import NumberingPlan.Logging.Level
import NumberingPlan.Text.Quoted

/-! Setting the log up: its level, and the one handler that writes to standard error. -/
namespace NumberingPlan.Logging

/-- How lines are written. -/
inductive Style where
  | plain
  | json
  deriving DecidableEq, Repr

/-- A handler: one that writes lines to standard error, or one that does nothing. -/
inductive Handler where
  | stream (style : Style)
  | silent
  deriving DecidableEq, Repr

/-- The log: its level and its handlers, oldest first. Others may have added handlers of any kind. -/
structure Setup (H : Type := Handler) where
  level : Int
  handlers : List H
  deriving DecidableEq, Repr

/-- A name that is no level, in upper case. -/
structure UnknownLevel where
  name : String
  deriving DecidableEq, Repr

def UnknownLevel.message (u : UnknownLevel) : String := "Unknown level: " ++ Text.quoted u.name

/-- Changes of the log. What was changed before a level turns out to be unknown stays changed. -/
abbrev Change (H : Type) := EStateM UnknownLevel (Setup H)

namespace Change

variable {H : Type}

def setLevel (name : String) : Change H Unit :=
  match level? name with
  | some level => modify fun setup => { setup with level := level }
  | none => throw ⟨name⟩

/-- Takes a handler out, if it is there. -/
def removeHandler [DecidableEq H] (handler : H) : Change H Unit :=
  modify fun setup => { setup with handlers := setup.handlers.erase handler }

/-- Adds a handler that is new. -/
def addHandler (handler : H) : Change H Unit :=
  modify fun setup => { setup with handlers := setup.handlers ++ [handler] }

/-- Sets the log up: its level first, then the handlers that are there are taken out one by one, and a
new one is added. -/
def setUp [DecidableEq H] (levelName : String) (handler : H) : Change H Unit := do
  setLevel (Text.upper levelName)
  (← get).handlers.forM removeHandler
  addHandler handler

end Change

/-- The log after it is set up, with lines of a style. -/
def Setup.configure (setup : Setup) (levelName : String) (style : Style) :
    Except UnknownLevel Setup :=
  match (Change.setUp levelName (Handler.stream style)).run setup with
  | .ok _ setup => .ok setup
  | .error unknown _ => .error unknown

end NumberingPlan.Logging
