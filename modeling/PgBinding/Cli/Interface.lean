/-!
The shape of a command line interface: a tool with options of its own and subcommands, each
subcommand with options and at most one operand.

An option is named by a long name, a short letter or both, and either is a flag, counts its
occurrences, takes one value (free, or one of a list of choices), or asks for help. Options of the
tool marked global are also options of every subcommand but the help subcommand. Options are
listed in help by their display order and then by name; each option declared on a command takes
the next display order of that command, and the help option comes last.
-/
namespace PgBinding
namespace Cli

/-- A value an option accepts, with what it means. -/
structure Choice where
  name : String
  description : Option String := none
  deriving Repr, DecidableEq

/-- What an option does when it is given. -/
inductive Action where
  /-- Sets a flag; giving it twice is refused. -/
  | flag
  /-- Counts how many times it is given. -/
  | count
  /-- Takes one value, named `placeholder` in help; when `choices` is not empty the value must be
  one of them. -/
  | value (placeholder : String) (choices : List Choice)
  /-- Shows the help of its command. -/
  | help
  deriving Repr, DecidableEq

/-- An option. -/
structure Argument where
  id : String
  long : Option String := none
  short : Option Char := none
  description : Option String := none
  /-- Description shown instead of `description` in the long form of help, if any. -/
  longDescription : Option String := none
  action : Action
  order : Nat := 999
  global : Bool := false
  /-- Options this one cannot be given together with. -/
  conflicts : List String := []
  deriving Repr, DecidableEq

/-- An operand: a value given by position. -/
structure Operand where
  id : String
  placeholder : String
  description : Option String := none
  /-- Whether it takes any number of values, none included. -/
  many : Bool := false
  deriving Repr, DecidableEq

/-- A subcommand. -/
structure Command where
  name : String
  about : Option String := none
  /-- The command's own options, in the order they were declared. -/
  options : List Argument := []
  operand : Option Operand := none
  /-- Whether the command has the help option. -/
  helpOption : Bool := true
  deriving Repr, DecidableEq

/-- A tool: its name, what it does, its own options and its subcommands. A subcommand is
required. -/
structure Tool where
  name : String
  about : Option String := none
  options : List Argument := []
  commands : List Command := []
  deriving Repr, DecidableEq

namespace Argument

/-- Whether the option takes a value. -/
def takesValue (a : Argument) : Bool :=
  match a.action with
  | .value .. => true
  | _ => false

/-- The choices of an option's value; empty when the value is free. -/
def choices (a : Argument) : List Choice :=
  match a.action with
  | .value _ cs => cs
  | _ => []

/-- What follows an option's name when it is shown: its value placeholder, or `...` when it
counts. -/
def suffix (a : Argument) : String :=
  match a.action with
  | .value p _ => " <" ++ p ++ ">"
  | .count => "..."
  | _ => ""

/-- How an option is named in messages: its long name, else its short one, and its suffix. -/
def display (a : Argument) : String :=
  match a.long, a.short with
  | some l, _ => "--" ++ l ++ a.suffix
  | none, some s => "-" ++ String.singleton s ++ a.suffix
  | none, none => a.id ++ a.suffix

/-- Whether some choice of the option's value has a help text of its own, which calls for the
long form of help. -/
def hasChoiceHelp (a : Argument) : Bool := a.choices.any (·.description.isSome)

end Argument

/-- How an operand is shown: its placeholder in brackets when optional and in angle brackets when
`required`, then `...` when it takes many values. -/
def Operand.display (o : Operand) (required : Bool) : String :=
  let name := if o.many || !required then "[" ++ o.placeholder ++ "]" else "<" ++ o.placeholder ++ ">"
  if o.many then name ++ "..." else name

/-- The help option. -/
def helpArgument (longForm : Bool) : Argument :=
  { id := "help", long := some "help", short := some 'h', action := .help,
    description := some (if longForm then "Print help (see more with '--help')" else "Print help"),
    longDescription := if longForm then some "Print help (see a summary with '-h')" else none }

/-- A level of the command line: the tool itself or one of its subcommands, as the parser and the
help see it. -/
structure Level where
  /-- The name used in usage lines: the tool's name, then the subcommand's. -/
  usageName : String
  about : Option String
  /-- Every option of the level, in the order they were attached: its own, then the global ones
  of the tool, then the help option. -/
  options : List Argument
  operand : Option Operand
  /-- The subcommands that may follow, with what they do; empty for a subcommand. -/
  commands : List (String × Option String)
  deriving Repr

namespace Level

/-- Whether the long form of help differs from the short one: some option or choice has a help
text of its own for it. -/
def hasLongHelp (l : Level) : Bool :=
  l.options.any fun a => a.longDescription.isSome || a.hasChoiceHelp

/-- The option with a long name. -/
def findLong (l : Level) (name : String) : Option Argument := l.options.find? (·.long == some name)

/-- The option with a short letter. -/
def findShort (l : Level) (c : Char) : Option Argument := l.options.find? (·.short == some c)

/-- The option with an id. -/
def find (l : Level) (id : String) : Option Argument := l.options.find? (·.id == id)

/-- The long names of the level's options, in order. -/
def longNames (l : Level) : List String := l.options.filterMap (·.long)

end Level

/-- The name of the help subcommand. -/
def helpCommandName : String := "help"

/-- The operand of the help subcommand: the subcommands to show the help of. -/
def helpOperand : Operand :=
  { id := "subcommand", placeholder := "COMMAND", many := true,
    description := some "Print help for the subcommand(s)" }

/-- The help subcommand. -/
def helpCommand : Command :=
  { name := helpCommandName,
    about := some "Print this message or the help of the given subcommand(s)",
    operand := some helpOperand, helpOption := false }

namespace Tool

/-- The subcommands, the help subcommand last. -/
def allCommands (t : Tool) : List Command := t.commands ++ [helpCommand]

/-- The options the tool declares, numbered in declaration order. -/
def ownOptions (t : Tool) : List Argument :=
  t.options.zipIdx.map fun (a, i) => { a with order := i }

/-- The tool as a level of the command line. -/
def root (t : Tool) : Level :=
  let own := t.ownOptions
  let long := own.any fun a => a.longDescription.isSome || a.hasChoiceHelp
  { usageName := t.name, about := t.about, options := own ++ [helpArgument long],
    operand := none, commands := t.allCommands.map fun c => (c.name, c.about) }

/-- A subcommand as a level of the command line: its options numbered in declaration order, the
tool's global options, and the help option. The help subcommand takes no global option. -/
def level (t : Tool) (c : Command) : Level :=
  let own := c.options.zipIdx.map fun (a, i) => { a with order := i }
  let globals := if c.name = helpCommandName then [] else t.ownOptions.filter (·.global)
  let options := own ++ globals.filter (fun g => !own.any (·.id == g.id))
  let long := options.any fun a => a.longDescription.isSome || a.hasChoiceHelp
  { usageName := t.name ++ " " ++ c.name, about := c.about,
    options := if c.helpOption then options ++ [helpArgument long] else options,
    operand := c.operand, commands := [] }

/-- The subcommand with a name. -/
def findCommand (t : Tool) (name : String) : Option Command :=
  t.allCommands.find? (·.name == name)

end Tool

end Cli
end PgBinding
