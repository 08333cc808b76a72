import PluginOrder.Journal.Event
import PluginOrder.Json.Printer
import PluginOrder.Ledger
import PluginOrder.Text.Case

/-!
# Log records

An event that is at least as severe as the threshold becomes a record: its fields, its name, its
level and a time stamp, and the identifiers of the active span if there is one.  A record is one
line, either of JSON or for a person to read.

The readings of the clock are parameters, so that nothing else depends on the time.
-/

namespace PluginOrder

/-- The readings of the clock that records show. -/
structure Clock where
  /-- The time of an event. -/
  stamp : String
  /-- How long a resolution took, in milliseconds. -/
  elapsed : Value

/-- The identifiers of the active span. -/
structure SpanContext where
  trace : Nat
  span : Nat

/-- The fields of a record, in their order. -/
abbrev Record := Ledger Value

namespace Level

/-- The thresholds that may be asked for by name. -/
def thresholds : List (String × Nat) :=
  [("CRITICAL", 50), ("FATAL", 50), ("ERROR", 40), ("WARN", 30), ("WARNING", 30), ("INFO", 20),
    ("DEBUG", 10), ("NOTSET", 0)]

/-- The threshold of a name in any case. -/
def threshold? (name : String) : Option Nat :=
  thresholds.lookup (String.ofList (Text.upper name.toList))

/-- What is said of a name that is no threshold. -/
def unknownThreshold (name : String) : String := "Unknown log level: " ++ Text.quote name

end Level

namespace Record

/-- Adds the identifiers of the active span, in hexadecimal; zero is no identifier. -/
def addSpan (r : Record) : Option SpanContext → Record
  | none => r
  | some ⟨trace, span⟩ =>
    if trace = 0 ∨ span = 0 then r
    else
      (r.insert "trace_id" (.text (String.ofList (Text.hex 32 trace)))).insert "span_id"
        (.text (String.ofList (Text.hex 16 span)))

/-- The fields that ask for a trace of the stack or of an error.  There is nothing to trace, so they
are taken out. -/
def traceFields : List String := ["stack_info", "exc_info"]

/-- The record of an event, given by its fields, name and level. -/
def of (fields : List (String × Value)) (name : String) (level : Level) (stamp : String)
    (span : Option SpanContext) : Record :=
  let r : Record := ((Ledger.ofList fields).insert "event" (.text name)).insert "level"
    (.text level.label)
  let r := addSpan (r.insert "timestamp" (.text stamp)) span
  traceFields.foldl Ledger.erase r

/-! ### Fields that cannot be logged -/

/-- A field whose name is taken by a parameter of a function on the way to the log. -/
structure FieldClash where
  function : String
  field : String
  deriving DecidableEq, Repr

/-- A clash in words. -/
def FieldClash.message (clash : FieldClash) : String :=
  clash.function ++ "() got multiple values for argument '" ++ clash.field ++ "'"

/-- The parameters by which an event is handed to the log. -/
def callParameters : List String := ["self", "event"]

/-- The parameter by which an event that is severe enough is handed on. -/
def forwardParameter : String := "method_name"

/-- The clash of fields that are to be logged at every level, the least severe one first, when the
threshold is known.  An event below the threshold goes nowhere, but it is called for all the
same. -/
def clash? (threshold : Nat) (fields : List (String × Value)) : Option FieldClash :=
  let call := if threshold ≤ Level.severity .debug
    then "_make_filtering_bound_logger.<locals>.make_method.<locals>.meth" else "_nop"
  match fields.find? fun field => callParameters.contains field.1 with
  | some (field, _) => some ⟨call, field⟩
  | none =>
    if threshold ≤ Level.severity .critical && fields.any (·.1 == forwardParameter) then
      some ⟨"BoundLoggerBase._proxy_to_logger", forwardParameter⟩
    else none

/-- The record of an event of the library.  A completed resolution shows how long it took. -/
def ofEvent (clock : Clock) (e : Event) : Record :=
  let fields := match e with
    | .resolutionCompleted .. => e.fields ++ [("duration_ms", clock.elapsed)]
    | _ => e.fields
  of fields e.name e.level clock.stamp none

/-- A record as a document value. -/
def toValue (r : Record) : Value := .object r.entries

/-- A record as a line of JSON. -/
def jsonLine (r : Record) : String := Json.render Json.oneLine r.toValue

/-! ### Lines for a person -/

/-- A text with blanks behind it up to a width. -/
def pad (width : Nat) (s : String) : String :=
  String.ofList (s.toList ++ List.replicate (width - s.length) ' ')

/-- The width of the level in a line. -/
def levelWidth : Nat := 9

/-- The width of the name of an event in a line. -/
def eventWidth : Nat := 30

/-- Whether a character makes a text ambiguous in a line. -/
def needsQuotes (c : Char) : Bool :=
  c == ' ' || c == '\t' || c == '=' || c == '\r' || c == '\n' || c == '\x22' || c == '\x27'

/-- A value in a line: a text bare if it is not ambiguous, anything else by its literal. -/
def consoleValue : Value → String
  | .text s => if s.toList.any needsQuotes then Text.quote s else s
  | v => v.literal?.getD ""

/-- The fields that have a column of their own. -/
def columns : List String := ["timestamp", "level", "event"]

/-- The text of a value that has a column of its own. -/
def column (r : Record) (key : String) : String := ((r.get? key).bind (·.display?)).getD ""

/-- A record as a line for a person: time stamp, level and name in columns, then the other fields
in the order of their keys. -/
def consoleLine (r : Record) : String :=
  let others := (r.entries.filter fun entry => !columns.contains entry.1).mergeSort
    fun a b => a.1 ≤ b.1
  let head := [r.column "timestamp", "[" ++ pad levelWidth (r.column "level") ++ "]",
    pad eventWidth (r.column "event")]
  let fields := others.map fun (key, value) => key ++ "=" ++ consoleValue value
  let line := joinTexts " " (head ++ fields)
  String.ofList (line.toList.reverse.dropWhile (· == ' ')).reverse

end Record

/-- The lines of a log: the events at or above a threshold. -/
def logLines (json : Bool) (threshold : Nat) (clock : Clock) (events : List Event) : String :=
  String.join ((events.filter fun e => threshold ≤ e.level.severity).map fun e =>
    let r := Record.ofEvent clock e
    (if json then r.jsonLine else r.consoleLine) ++ "\n")

end PluginOrder
