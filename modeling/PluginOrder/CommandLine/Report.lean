import PluginOrder.CommandLine.Message
import PluginOrder.Journal.Record

/-!
# Reports

A report is what a run of the program says, in its order: results, errors and warnings, and events
for the log.  Which events are shown, and how, is decided when the report is printed.
-/

namespace PluginOrder.CommandLine

/-- A part of a report. -/
inductive Part where
  /-- Text for the standard output. -/
  | result (text : String)
  /-- Text for the error output. -/
  | remark (text : String)
  /-- An event for the log. -/
  | event (event : Event)

/-- What a run says, and how it ends. -/
structure Report where
  parts : List Part
  exit : ExitCode

/-- What a run prints, and the number that it ends with. -/
structure Printout where
  exit : Nat
  output : String
  errors : String
  deriving DecidableEq, Repr

/-- How the log is shown. -/
structure LogStyle where
  json : Bool
  /-- The least severity that is shown. -/
  threshold : Nat
  clock : Clock

namespace Report

/-- The text of a part on the standard output. -/
def outputOf : Part → String
  | .result text => text
  | _ => ""

/-- The text of a part on the error output. -/
def errorsOf (style : LogStyle) : Part → String
  | .result _ => ""
  | .remark text => text
  | .event e => logLines style.json style.threshold style.clock [e]

/-- Prints a report. -/
def print (style : LogStyle) (r : Report) : Printout where
  exit := r.exit.code
  output := String.join (r.parts.map outputOf)
  errors := String.join (r.parts.map (errorsOf style))

/-- A report that ends with an error. -/
def failed (parts : List Part) (exit : ExitCode) (message : String) : Report :=
  ⟨parts ++ [.remark (errorText message [])], exit⟩

end Report

end PluginOrder.CommandLine
