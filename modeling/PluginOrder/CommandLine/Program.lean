import PluginOrder.CommandLine.Command

/-!
# The program

The arguments of the program are options, the name of a command, and the options and paths of the
command.  What concerns the whole program is settled first: its options, then the name of the
command, then the environment; only then the arguments of the command are looked at.

`run` is the whole program as a function of its arguments, the environment and the files.
-/

namespace PluginOrder.CommandLine

/-! ### Options -/

/-- The options of the program. -/
inductive ProgramOption where
  | version
  | logLevel
  | jsonLogs
  | consoleLogs
  | help
  deriving DecidableEq, Repr

/-- How the options of the program are written. -/
def programGrammar : Grammar ProgramOption where
  long := [("--version", .version), ("--log-level", .logLevel), ("--json-logs", .jsonLogs),
    ("--console-logs", .consoleLogs), ("--help", .help)]
  short := [('h', .help)]
  takesValue := (· == .logLevel)
  mixes := false

/-- The options of a command. -/
inductive CommandOption where
  | format
  | loose
  | includePrerelease
  | help
  deriving DecidableEq, Repr

/-- How the options of a command are written. -/
def commandGrammar (command : Command) : Grammar CommandOption where
  long := (if command = .resolve then [("--format", .format)] else []) ++
    [("--loose", .loose), ("--include-prerelease", .includePrerelease), ("--help", .help)]
  short := [('h', .help)]
  takesValue := (· == .format)
  mixes := true

/-- The log levels that may be chosen. -/
def levelChoices : List (String × Level) := Level.all.map fun level => (level.label, level)

/-- The formats that may be chosen. -/
def formatChoices : List (String × OutputFormat) :=
  [("text", .text), ("json", .json), ("yaml", .yaml)]

/-- The choice that the value of an option names, if the option was given. -/
def chosen {α : Type} (option : String) (choices : List (String × α)) :
    Option String → Except UsageFault (Option α)
  | none => .ok none
  | some value =>
    match choice? choices value with
    | some choice => .ok (some choice)
    | none => .error (.notAChoice option value (choices.map Prod.fst))

/-! ### What the arguments ask for -/

/-- What is asked of the program. -/
inductive Request where
  /-- The version is to be printed. -/
  | version
  /-- The help text is to be printed. -/
  | help (scope : Scope)
  /-- The command that was named is to run. -/
  | command (command : Command) (level : Option Level) (jsonLogs : Option Bool)
      (arguments : List String)

/-- Why a run ends before a command is called. -/
inductive Refusal where
  /-- There are no arguments at all. -/
  | nothingAsked
  | usage (fault : UsageFault)

/-- The request that options at the front make by themselves. -/
def eagerRequest? (options : Arguments ProgramOption) : Option Request :=
  match options.first? [.version, .help] with
  | some .version => some .version
  | some _ => some (.help none)
  | none => none

/-- Reads the options of the program: a request that they make by themselves, or the arguments
with the level that was chosen. -/
def readOptions (arguments : List String) :
    Except Refusal (Arguments ProgramOption × Option Level × Option Request) :=
  if arguments.isEmpty then .error .nothingAsked
  else
    match programGrammar.read arguments with
    | .error fault => .error (.usage (.option fault))
    | .ok given =>
      match eagerRequest? given with
      | some request => .ok (given, none, some request)
      | none =>
        match chosen "--log-level" levelChoices (given.value? .logLevel) with
        | .error fault => .error (.usage fault)
        | .ok level => .ok (given, level, none)

/-- What a word that names no command asks for.  One that looks like an option is read as one, in
case it is to print a help text. -/
def withoutCommand (name : String) (rest : List String) : Except Refusal Request :=
  let unknown := Refusal.usage
    (.unknownCommand name (Text.similarTo name (commands.map Prod.fst)))
  if name.toList.head? = some '-' then
    match readOptions (name :: rest) with
    | .error refusal => .error refusal
    | .ok (_, _, some request) => .ok request
    | .ok (_, _, none) => .error unknown
  else .error unknown

/-- Reads the arguments up to the name of the command. -/
def readRequest (arguments : List String) : Except Refusal Request :=
  match readOptions arguments with
  | .error refusal => .error refusal
  | .ok (_, _, some request) => .ok request
  | .ok (given, level, none) =>
    match given.operands with
    | [] => .error (.usage .commandMissing)
    | name :: rest =>
      match commands.lookup name with
      | some command =>
        let json := (given.last? [.jsonLogs, .consoleLogs]).map (· == .jsonLogs)
        .ok (.command command level json rest)
      | none => withoutCommand name rest

/-- What is asked of a command. -/
structure Invocation where
  /-- Only the help text is asked for. -/
  help : Bool
  format : OutputFormat
  loose : Bool
  includePrerelease : Bool
  paths : List Path

/-- Reads the arguments of a command. -/
def readInvocation (command : Command) (arguments : List String) : Except UsageFault Invocation :=
  match (commandGrammar command).read arguments with
  | .error fault => .error (.option fault)
  | .ok given =>
    let call (format : OutputFormat) : Invocation :=
      ⟨given.has .help, format, given.has .loose, given.has .includePrerelease,
        given.operands.map Path.ofString⟩
    if given.has .help then .ok (call .text)
    else
      match chosen "--format" formatChoices (given.value? .format) with
      | .error fault => .error fault
      | .ok format =>
        if given.operands.isEmpty then .error .pathsMissing else .ok (call (format.getD .text))

/-- The paths that arguments name. -/
def pathsOf (arguments : List String) : List Path :=
  match readRequest arguments with
  | .ok (.command command _ _ rest) =>
    match readInvocation command rest with
    | .ok call => call.paths
    | .error _ => []
  | _ => []

/-! ### The environment -/

/-- The greatest length of a value in a message, in octets. -/
def valueLimit : Nat := 50

/-- The characters in front of the octet at a position, or around it. -/
def frontOctets (most : Nat) : List Char → List Char
  | [] => []
  | c :: rest =>
    if c.utf8Size ≤ most then c :: frontOctets (most - c.utf8Size) rest else []

/-- A value in a message: a long one with its middle left out. -/
def shortened (s : String) : String :=
  if s.utf8ByteSize ≤ valueLimit then s
  else
    let front := frontOctets (valueLimit / 2) s.toList
    let back := (frontOctets (valueLimit / 2 - 1) s.toList.reverse).reverse
    String.ofList front ++ "..." ++ String.ofList back

/-- What is said of an environment that is not understood.  Only the log level can be at fault. -/
def environmentMessage (env : Config.Environment) : String :=
  let level := (Config.setting? env "LOG_LEVEL").getD []
  let value := Text.quote (String.ofList (Text.upper level))
  "Invalid environment configuration: 1 validation error for ResolverConfig\nlog_level\n  " ++
    Complaint.message .notLevel ++ " [type=" ++ Complaint.code .notLevel ++ ", input_value=" ++
    shortened value ++ ", input_type=str]\n    " ++
    "For further information visit https://errors.pydantic.dev/2.14/v/literal_error"

/-! ### Running -/

/-- The report of a run that does nothing but print a text. -/
def say (text : String) : Report := ⟨[.result (printed text)], .success⟩

/-- The report of a run that was not understood. -/
def misused (s : Scope) (fault : UsageFault) : Report := ⟨[.remark (fault.text s)], .usageError⟩

/-- Runs a command, unless the null character is in one of its paths. -/
def runCommand (c : Config) (files : Snapshot) (command : Command) (arguments : List String) :
    Report :=
  match readInvocation command arguments with
  | .error fault => misused (some command) fault
  | .ok call =>
    if call.help then say (Scope.help (some command))
    else if let some path := call.paths.find? Path.hasNull then
      .failed [] .generalError (PathFault.message path .nullCharacter)
    else
      let c := { c with
        looseVersions := c.looseVersions || call.loose
        includePrerelease := c.includePrerelease || call.includePrerelease }
      withPlugins files call.paths
        (match command with
          | .resolve => runResolve c call.format
          | .graph => runGraph c)

/-- The style of a log that is not used. -/
def noLog (clock : Clock) : LogStyle := ⟨false, Level.severity .critical, clock⟩

/-- Runs the program. -/
def run (clock : Clock) (env : Config.Environment) (files : Snapshot) (arguments : List String) :
    Printout :=
  match readRequest arguments with
  | .error .nothingAsked =>
    Report.print (noLog clock) ⟨[.remark (printed (Scope.help none))], .usageError⟩
  | .error (.usage fault) => (misused none fault).print (noLog clock)
  | .ok .version => (say versionText).print (noLog clock)
  | .ok (.help scope) => (say (Scope.help scope)).print (noLog clock)
  | .ok (.command command level json rest) =>
    match Config.ofEnvironment env with
    | .error _ =>
      (Report.failed [] .usageError (environmentMessage env)).print (noLog clock)
    | .ok c =>
      let c := { c with logLevel := level.getD c.logLevel, jsonLogs := json.getD c.jsonLogs }
      (runCommand c files command rest).print ⟨c.jsonLogs, c.logLevel.severity, clock⟩

end PluginOrder.CommandLine
