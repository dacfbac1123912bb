import PgBinding.Cli.Arguments
import PgBinding.Options
/-!
The command line of `pgquery`: its options and subcommands, and what a command line asks for.

`pgquery [--config FILE] [--library PATH] [-v...] [-q...] COMMAND [FILE]` runs one of seven
commands on the SQL of `FILE`, or of standard input. `--config`, `--library`, `-v` and `-q` may
be given before or after the command; given on both sides, the later one counts.
-/
namespace PgBinding
namespace Cli

/-- The spelling of a grammar entry point on the command line. -/
def modeArgument : ParseMode → String
  | .default => "default"
  | .typeName => "type-name"
  | .plpgsqlExpr => "plpgsql-expr"
  | .plpgsqlAssign1 => "plpgsql-assign1"
  | .plpgsqlAssign2 => "plpgsql-assign2"
  | .plpgsqlAssign3 => "plpgsql-assign3"

/-- The values of `--mode`. -/
def modeChoices : List Choice := ParseMode.all.map fun m => { name := modeArgument m }

/-- The values of `--algorithm`, with what they mean. -/
def algorithmChoices : List Choice :=
  [{ name := "scanner", description := some "Scanner only; fast and tolerant of invalid statements" },
   { name := "parser", description := some "Full parser; fails on invalid SQL" }]

/-- The SQL file operand. -/
def fileOperand (description : Option String) : Operand :=
  { id := "file", placeholder := "FILE", description }

/-- `-m, --mode`. -/
def modeOption (description : Option String) : Argument :=
  { id := "mode", long := some "mode", short := some 'm', action := .value "MODE" modeChoices,
    description }

/-- The options of the tool itself. -/
def toolOptions : List Argument :=
  [{ id := "config", long := some "config", action := .value "FILE" [], global := true,
     description := some "Configuration file (defaults to ./pgquery.toml when present)" },
   { id := "library", long := some "library", action := .value "PATH" [], global := true,
     description := some "Path of the libpg_query shared library" },
   { id := "verbose", long := some "verbose", short := some 'v', action := .count, global := true,
     description := some "Increase logging verbosity" },
   { id := "quiet", long := some "quiet", short := some 'q', action := .count, global := true,
     description := some "Decrease logging verbosity", conflicts := ["verbose"] }]

/-- The subcommands. -/
def toolCommands : List Command :=
  [{ name := "parse", about := some "Print the parse tree as JSON",
     operand := some (fileOperand (some "SQL file (reads stdin when omitted)")),
     options := [
       modeOption (some "Grammar entry point, overriding the configuration"),
       { id := "statements", long := some "statements", short := some 's', action := .flag,
         description := some "Only list the statements with their locations and node tags" }] },
   { name := "normalize", about := some "Replace constants with parameter references",
     operand := some (fileOperand none),
     options := [
       { id := "utility", long := some "utility", short := some 'u', action := .flag,
         description := some "Normalize utility statements (SET, CREATE, ...)" }] },
   { name := "fingerprint", about := some "Print the query fingerprint",
     operand := some (fileOperand none),
     options := [
       modeOption none,
       { id := "json", long := some "json", action := .flag,
         description := some "Print both the numeric and hex forms as JSON" }] },
   { name := "split", about := some "Split a batch into statements",
     operand := some (fileOperand none),
     options := [
       { id := "algorithm", long := some "algorithm", short := some 'a',
         action := .value "ALGORITHM" algorithmChoices,
         description := some "Splitting algorithm, overriding the configuration" },
       { id := "spans", long := some "spans", action := .flag,
         description := some "Print byte spans as JSON instead of statement text" }] },
   { name := "scan", about := some "List scanner tokens", operand := some (fileOperand none) },
   { name := "format", about := some "Pretty-print SQL using the [deparse] options",
     operand := some (fileOperand none) },
   { name := "comments", about := some "List the comments in the input as JSON",
     operand := some (fileOperand none) }]

/-- The tool. -/
def tool : Tool :=
  { name := "pgquery",
    about := some "Parse, normalize, fingerprint and format PostgreSQL with libpg_query",
    options := toolOptions, commands := toolCommands }

/-- What a command asks for. -/
inductive Request where
  | parse (mode : Option ParseMode) (statements : Bool)
  | normalize (utility : Bool)
  | fingerprint (mode : Option ParseMode) (json : Bool)
  | split (algorithm : Option SplitAlgorithm) (spans : Bool)
  | scan
  | format
  | comments
  deriving Repr, DecidableEq

/-- What a command line asks for: where the configuration and the library are, how much to log,
the command, and the SQL file (standard input when none). -/
structure Invocation where
  config : Option String
  library : Option String
  verbose : Nat
  quiet : Nat
  request : Request
  file : Option String
  deriving Repr, DecidableEq

/-- The request of a subcommand, from what was given to it. -/
def Matches.request (m : Matches) : Request :=
  let mode := (m.value "mode").bind fun v => ParseMode.all.find? (modeArgument · == v)
  if m.command = "parse" then .parse mode (m.flag "statements")
  else if m.command = "normalize" then .normalize (m.flag "utility")
  else if m.command = "fingerprint" then .fingerprint mode (m.flag "json")
  else if m.command = "split" then
    .split ((m.value "algorithm").bind SplitAlgorithm.ofName?) (m.flag "spans")
  else if m.command = "scan" then .scan
  else if m.command = "format" then .format
  else .comments

/-- The invocation a command line asks for. -/
def Matches.invocation (m : Matches) : Invocation :=
  { config := m.globalValue "config", library := m.globalValue "library",
    verbose := m.globalCount "verbose", quiet := m.globalCount "quiet",
    request := m.request, file := m.value "file" }

/-- Reads the words of a command line, the tool's name left out. -/
def readCommandLine (words : List String) : Except Stop Invocation :=
  (tool.read words).map Matches.invocation

end Cli
end PgBinding
