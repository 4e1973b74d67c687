/-!
# Command lines

A command line is made of options, each with a value, and of the request for help. The value of an
option stands in an argument of its own or in the same one, after an equals sign or, for the short
spelling, directly after the letter.

Arguments are read from left to right. A value in an argument of its own is settled only when the
next option begins or the line ends; an argument that means nothing is reported even before that.
-/

namespace DeprecationLint

/-- An option that takes a value. -/
inductive CommandOption where
  | reference
  | solution
  | version
  | out
  | config
  deriving DecidableEq, Repr

namespace CommandOption

/-- The option with a letter. -/
def ofLetter? : Char → Option CommandOption
  | 'r' => some .reference
  | 's' => some .solution
  | 'v' => some .version
  | 'o' => some .out
  | 'c' => some .config
  | _ => none

/-- The option with a name. -/
def ofName? : String → Option CommandOption
  | "reference" => some .reference
  | "solution" => some .solution
  | "version" => some .version
  | "out" => some .out
  | "config" => some .config
  | _ => none

/-- Is the value of the option a path? A path may not be empty. -/
def isPath : CommandOption → Bool
  | .version => false
  | _ => true

end CommandOption

/-- What a command line asks for. -/
structure Command where
  /-- The path of the platform module. -/
  reference : Option String := none
  /-- The path of the solution. -/
  solution : Option String := none
  /-- The version that the program is meant for. -/
  version : Option String := none
  /-- Where to write the report, which is not heeded. -/
  out : Option String := none
  /-- The path of the settings. -/
  config : Option String := none
  deriving DecidableEq, Repr

/-- Why a command line does not ask for a session. -/
inductive UsageFault where
  /-- It asks for help. -/
  | helpWanted
  /-- An argument means nothing. -/
  | unknownArgument
  /-- An option has no value, or an empty one where it may not be. -/
  | invalidValue
  /-- An option is given twice. -/
  | repeatedOption
  /-- The request for help has a value. -/
  | unwantedValue
  deriving DecidableEq, Repr

/-- The wording of a fault in a command line. -/
def UsageFault.message : UsageFault → String
  | .helpWanted => "help was asked for"
  | .unknownArgument => "unexpected argument found"
  | .invalidValue => "an option has no valid value"
  | .repeatedOption => "an option cannot be used multiple times"
  | .unwantedValue => "unexpected value for the help option"

namespace Command

/-- The value of an option. -/
def get? (c : Command) : CommandOption → Option String
  | .reference => c.reference
  | .solution => c.solution
  | .version => c.version
  | .out => c.out
  | .config => c.config

/-- The command with a value for an option. -/
def set (c : Command) (o : CommandOption) (value : String) : Command :=
  match o with
  | .reference => { c with reference := some value }
  | .solution => { c with solution := some value }
  | .version => { c with version := some value }
  | .out => { c with out := some value }
  | .config => { c with config := some value }

/-- Settles an option with its value. -/
def settle (c : Command) (o : CommandOption) (value : Option String) :
    Except UsageFault Command :=
  match value with
  | none => .error .invalidValue
  | some v =>
    if (c.get? o).isSome then .error .repeatedOption
    else if o.isPath ∧ v = "" then .error .invalidValue
    else .ok (c.set o v)

/-- What has been read of a command line. -/
structure Progress where
  /-- What is settled. -/
  command : Command := {}
  /-- The option at hand, with its value if that has been read. -/
  pending : Option (CommandOption × Option String) := none
  /-- Are options over? -/
  optionsOver : Bool := false

namespace Progress

/-- Settles the option at hand. -/
def settled (p : Progress) : Except UsageFault Command :=
  match p.pending with
  | none => .ok p.command
  | some (o, value) => p.command.settle o value

/-- Begins an option. A value in the same argument is settled with it. -/
def begin (p : Progress) (o : CommandOption) (value : Option String) :
    Except UsageFault Progress := do
  let command ← p.settled
  match value with
  | none => return { p with command, pending := some (o, none) }
  | some v => return { p with command := ← command.settle o (some v), pending := none }

/-- Asks for help. -/
def help (p : Progress) : Except UsageFault Progress := do
  let _ ← p.settled
  throw .helpWanted

/-- Reads an argument with two dashes. -/
def longArgument (p : Progress) (cs : List Char) : Except UsageFault Progress :=
  let (name, value) :=
    match cs.span (· ≠ '=') with
    | (name, '=' :: value) => (String.ofList name, some (String.ofList value))
    | (name, _) => (String.ofList name, none)
  if name = "help" then if value.isSome then .error .unwantedValue else p.help
  else
    match CommandOption.ofName? name with
    | some o => p.begin o value
    | none => .error .unknownArgument

/-- Reads an argument with one dash. -/
def shortArgument (p : Progress) (letter : Char) (cs : List Char) : Except UsageFault Progress :=
  if letter = 'h' ∨ letter = '?' then p.help
  else
    match CommandOption.ofLetter? letter, cs with
    | some o, [] => p.begin o none
    | some o, '=' :: value => p.begin o (some (String.ofList value))
    | some o, value => p.begin o (some (String.ofList value))
    | none, _ => .error .unknownArgument

/-- Reads an argument that is no option. -/
def bareArgument (p : Progress) (arg : String) : Except UsageFault Progress :=
  match p.pending with
  | some (o, none) => .ok { p with pending := some (o, some arg) }
  | _ => .error .unknownArgument

/-- Reads an argument. -/
def step (p : Progress) (arg : String) : Except UsageFault Progress :=
  if p.optionsOver then .error .unknownArgument
  else
    match arg.toList with
    | ['-', '-'] => .ok { p with optionsOver := true }
    | '-' :: '-' :: cs => p.longArgument cs
    | '-' :: letter :: cs => p.shortArgument letter cs
    | _ => p.bareArgument arg

end Progress

/-- The command that arguments ask for. -/
def parse (args : List String) : Except UsageFault Command := do
  let p ← args.foldlM Progress.step {}
  p.settled

/-- How the program is used. -/
def usage : String :=
  "Deprecated platform API usage analyzer for bound semantic snapshots\n\n"
    ++ "Usage: deprecheck [OPTIONS]\n\nOptions:\n"
    ++ "  -r, --reference <REFERENCE>  Path to the platform metadata module - Optional\n"
    ++ "  -s, --solution <SOLUTION>    Path to the solution snapshot (file or directory) "
    ++ "to be analyzed - Required\n"
    ++ "  -v, --version <VERSION>      Target SDK version (ie. 7.0) - Optional\n"
    ++ "  -o, --out <OUT>              Output filename - Optional (not implemented yet)\n"
    ++ "  -c, --config <CONFIG>        Path to settings YAML file (default: auto-discover)\n"
    ++ "  -h, --help                   Display this usage message [alias: -?]\n"

end Command

end DeprecationLint
