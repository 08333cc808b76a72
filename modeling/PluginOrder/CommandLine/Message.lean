import PluginOrder.Value.Display
import PluginOrder.Text.Digit

/-!
# Messages of the command line

What a command prints besides its log: results on the standard output, errors and warnings, with
their context, on the other one.  Since neither is a terminal, control sequences that would colour
the text are taken out.
-/

namespace PluginOrder.CommandLine

/-- How a command ends. -/
inductive ExitCode where
  | success
  | generalError
  | usageError
  | fileNotFound
  | validationError
  | pluginsRejected
  | dependencyCycle
  deriving DecidableEq, Repr

namespace ExitCode

/-- All exit codes. -/
def all : List ExitCode :=
  [.success, .generalError, .usageError, .fileNotFound, .validationError, .pluginsRejected,
    .dependencyCycle]

/-- The number of an exit code. -/
def code : ExitCode → Nat
  | .success => 0
  | .generalError => 1
  | .usageError => 2
  | .fileNotFound => 3
  | .validationError => 5
  | .pluginsRejected => 6
  | .dependencyCycle => 7

/-- The name of an exit code. -/
def name : ExitCode → String
  | .success => "SUCCESS"
  | .generalError => "GENERAL_ERROR"
  | .usageError => "USAGE_ERROR"
  | .fileNotFound => "FILE_NOT_FOUND"
  | .validationError => "VALIDATION_ERROR"
  | .pluginsRejected => "PLUGINS_REJECTED"
  | .dependencyCycle => "DEPENDENCY_CYCLE"

/-- The exit code of a name. -/
def ofName? (name : String) : Option ExitCode := all.find? fun code => code.name == name

end ExitCode

/-- Whether a character lies between two others in the order of code points. -/
def isBetween (first last c : Char) : Bool := first ≤ c && c ≤ last

/-- The rest of a text after a control sequence, if the text begins with one: the escape character
and a bracket, parameters, intermediate characters, and a final one. -/
def afterEscape? : List Char → Option (List Char)
  | '\x1b' :: '[' :: rest =>
    match (rest.dropWhile (isBetween '0' '?')).dropWhile (isBetween ' ' '/') with
    | c :: rest => if isBetween '@' '~' c then some rest else none
    | [] => none
  | _ => none

/-- The text without escape sequences. -/
def stripEscapes (s : List Char) : List Char := go s.length s
where
  /-- At most the given number of turns, each of which takes a character or a sequence. -/
  go : Nat → List Char → List Char
    | 0, s => s
    | _ + 1, [] => []
    | n + 1, c :: rest =>
      match afterEscape? (c :: rest) with
      | some rest => go n rest
      | none => c :: go n rest

/-- A text as it is printed: without escape sequences, and ended by a line break. -/
def printed (s : String) : String := String.ofList (stripEscapes s.toList) ++ "\n"

/-- The texts of the values of a context that are not null, unless there is one without a text. -/
def contextTexts? : List (String × Value) → Option (List (String × String))
  | [] => some []
  | (_, .null) :: rest => contextTexts? rest
  | (key, value) :: rest => do
    let text ← value.display?
    let texts ← contextTexts? rest
    some ((key, text) :: texts)

/-- A message with its label in front and its context behind it, in parentheses. -/
def withContext (label message : String) (context : List (String × String)) : String :=
  let suffix := joinTexts ", " (context.map fun (key, text) => key ++ "=" ++ text)
  label ++ ": " ++ message ++ if suffix.isEmpty then "" else " (" ++ suffix ++ ")"

/-- The text of an error message. -/
def errorText (message : String) (context : List (String × String)) : String :=
  printed (withContext "Error" message context)

/-- The text of a warning. -/
def warningText (message : String) (context : List (String × String)) : String :=
  printed (withContext "Warning" message context)

end PluginOrder.CommandLine
