import PgBinding.Error
import PgBinding.Toml.Error
import PgBinding.Cli.Report
/-!
Why the command line tool stops, and how an engine error becomes a report on the query text.

The engine's cursor is a one-based byte offset, 0 when unknown. A report marks the byte before
the cursor; a cursor at or past the end of the text marks the empty span at its end, which is
where "syntax error at end of input" belongs.
-/
namespace PgBinding
namespace Cli

/-- Why a file or standard input could not be read as text. -/
inductive ReadFault where
  /-- No file has the name. -/
  | notFound
  /-- The name is a directory. -/
  | isDirectory
  /-- The bytes are not UTF-8. -/
  | notUtf8
  deriving Repr, DecidableEq

/-- The operating system's wording of a read fault. -/
def ReadFault.message : ReadFault → String
  | .notFound => "No such file or directory (os error 2)"
  | .isDirectory => "Is a directory (os error 21)"
  | .notUtf8 => "stream did not contain valid UTF-8"

/-- The byte span a cursor marks in `source`: none for an unknown cursor, else the byte before
the cursor, cut to the end of the text. -/
def cursorSpan (cursor : Nat) (source : String) : Option (Nat × Nat) :=
  if cursor = 0 then none
  else
    let offset := min (cursor - 1) source.utf8ByteSize
    some (offset, if offset < source.utf8ByteSize then 1 else 0)

/-- An engine error placed in the query it was reported on. -/
structure QueryReport where
  /-- The name the text is shown under: a file name or `<stdin>`. -/
  name : String
  source : String
  span : Option (Nat × Nat)
  message : String
  /-- The engine's context line, shown as advice. -/
  context : Option String
  deriving Repr, DecidableEq

/-- Why the command line tool stops. -/
inductive Failure where
  /-- Reading `path` failed during `operation`. -/
  | read (operation path : String) (fault : ReadFault)
  /-- The configuration file at `path`, holding `source`, is not a valid configuration. -/
  | config (path : String) (error : Toml.Error) (source : String)
  /-- The engine rejected the query. -/
  | query (r : QueryReport)
  /-- Any other error of the binding, reported as it is. -/
  | binding (e : Error)
  deriving Repr

/-- Places an engine error in the text it was reported on; any other error passes through. -/
def Failure.ofError (name source : String) : Error → Failure
  | .engine e => .query ⟨name, source, cursorSpan e.cursorPosition source, e.message, e.context⟩
  | e => .binding e

/-- The advice given with a configuration that cannot be read. -/
def configHelp : String :=
  "see \x60pgquery --help\x60 for the supported [parse], [split] and [deparse] keys"

/-- How a failure is reported. An engine error marks the byte at its cursor, labelled with its
message, and gives its context as advice. -/
def Failure.diagnostic : Failure → Diagnostic
  | .read operation path fault =>
    { code := "pgquery::cli::io_error", message := s!"I/O error while {operation} ({path})",
      causes := [fault.message], marking := none, help := none }
  | .config path error source =>
    { code := "pgquery::cli::config_error", message := s!"Invalid configuration in {path}",
      causes := [error.render source], marking := none, help := some configHelp }
  | .query r =>
    { code := "pgquery::cli::query_error", message := r.message, causes := [],
      marking := r.span.map fun (offset, length) => ⟨r.name, r.source, offset, length, r.message⟩,
      help := r.context }
  | .binding e =>
    { code := e.code, message := e.message, causes := e.causes, marking := none, help := e.help }

end Cli
end PgBinding
