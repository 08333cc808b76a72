import PluginOrder.Text.Blank
import PluginOrder.Text.Similarity

/-!
# Options and operands

Arguments are options, their values, and operands.  A long option has its value behind an equals
sign or in the next argument; short options may share an argument.  Two dashes alone end the
options.  Where options and operands do not mix, the first operand ends them too.

`Grammar.read` finds what was given and in which order; what it means is decided elsewhere.
-/

namespace PluginOrder.CommandLine

/-- What is wrong with the options in a list of arguments. -/
inductive OptionFault where
  /-- There is no such option, but there may be similar ones. -/
  | unknown (name : String) (similar : List String)
  /-- The option needs a value. -/
  | valueMissing (name : String)
  /-- The option takes no value. -/
  | valueGiven (name : String)
  deriving DecidableEq, Repr

/-- The options that may be given. -/
structure Grammar (α : Type) where
  /-- The options with long names. -/
  long : List (String × α)
  /-- The options with short names, none of which takes a value. -/
  short : List (Char × α)
  takesValue : α → Bool
  /-- Whether options may follow operands. -/
  mixes : Bool

/-- An option that was given, with its value if it takes one. -/
structure Given (α : Type) where
  option : α
  value : String

/-- What was given, in its order. -/
structure Arguments (α : Type) where
  options : List (Given α)
  operands : List String

namespace Grammar

variable {α : Type}

/-- What an argument gives by itself. -/
inductive Reading (α : Type) where
  /-- It gives options. -/
  | options (given : List (Given α))
  /-- It names an option whose value is the next argument. -/
  | awaitsValue (name : String) (option : α)
  /-- It is no option. -/
  | operand
  /-- It ends the options. -/
  | ending

/-- Reads the short options in an argument. -/
def readShort (g : Grammar α) : List Char → Except OptionFault (List (Given α))
  | [] => .ok []
  | c :: rest =>
    match g.short.lookup c with
    | none => .error (.unknown (String.ofList ['-', c]) [])
    | some option => (g.readShort rest).map (⟨option, ""⟩ :: ·)

/-- Reads an argument that names a long option, or short ones if it begins with a single dash. -/
def readOption (g : Grammar α) (argument : List Char) : Except OptionFault (Reading α) :=
  let (chars, value?) := Text.cut '=' argument
  let name := String.ofList chars
  match g.long.lookup name, value? with
  | some option, some value =>
    if g.takesValue option then .ok (.options [⟨option, String.ofList value⟩])
    else .error (.valueGiven name)
  | some option, none =>
    if g.takesValue option then .ok (.awaitsValue name option)
    else .ok (.options [⟨option, ""⟩])
  | none, _ =>
    if argument.take 2 = ['-', '-'] then
      .error (.unknown name (Text.similarTo name (g.long.map Prod.fst)))
    else (g.readShort argument.tail).map .options

/-- Reads an argument. -/
def readArgument (g : Grammar α) (argument : String) : Except OptionFault (Reading α) :=
  match argument.toList with
  | ['-', '-'] => .ok .ending
  | '-' :: c :: rest => g.readOption ('-' :: c :: rest)
  | _ => .ok .operand

/-- Reads arguments. -/
def read (g : Grammar α) : List String → Except OptionFault (Arguments α)
  | [] => .ok ⟨[], []⟩
  | argument :: rest =>
    match g.readArgument argument with
    | .error fault => .error fault
    | .ok .ending => .ok ⟨[], rest⟩
    | .ok .operand =>
      if g.mixes then
        (g.read rest).map fun more => { more with operands := argument :: more.operands }
      else .ok ⟨[], argument :: rest⟩
    | .ok (.options given) =>
      (g.read rest).map fun more => { more with options := given ++ more.options }
    | .ok (.awaitsValue name option) =>
      match rest with
      | [] => .error (.valueMissing name)
      | value :: rest =>
        (g.read rest).map fun more => { more with options := ⟨option, value⟩ :: more.options }

end Grammar

namespace Arguments

variable {α : Type} [DecidableEq α]

/-- Whether an option was given. -/
def has (a : Arguments α) (option : α) : Bool := a.options.any fun given => given.option = option

/-- The value that an option was given last. -/
def value? (a : Arguments α) (option : α) : Option String :=
  (a.options.reverse.find? fun given => given.option = option).map (·.value)

/-- The first option given among some. -/
def first? (a : Arguments α) (options : List α) : Option α :=
  (a.options.find? fun given => options.contains given.option).map (·.option)

/-- The last option given among some. -/
def last? (a : Arguments α) (options : List α) : Option α :=
  (a.options.reverse.find? fun given => options.contains given.option).map (·.option)

end Arguments

/-- The folded form of a character, in which choices are compared: small letters, with the long
s as an s. -/
def foldChar (c : Char) : Char := if c = '\u017f' then 's' else c.toLower

/-- The choice that a text names in any case. -/
def choice? {α : Type} (choices : List (String × α)) (text : String) : Option α :=
  choices.lookup (String.ofList (text.toList.map foldChar))

end PluginOrder.CommandLine
