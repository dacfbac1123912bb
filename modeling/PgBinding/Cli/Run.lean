import PgBinding.Cli.Commands
import PgBinding.Engine.Journal
import PgBinding.Engine.Global
/-!
A run of the tool from its command line to its exit status and output.

The tool reads its command line, then its configuration (the file given, else `pgquery.toml` in
the working directory when there is one), loads the engine library (the one given, else the
configuration's, else the one `PGQUERY_LIBRARY` names, else the platform's default), reads the SQL
(the file given, else standard input), and runs the command. What it prints on success goes to
standard output. Help goes to standard output with status 0; a command line it refuses, to
standard error with status 2; any later failure is reported on standard error with status 1.

Diagnostics are logged on standard error at warnings and above; each `-v` shows one level more
and each `-q` one level less. The counts are bytes that stop at 255, and the level is worked out
in signed bytes that wrap.
-/
namespace PgBinding
namespace Cli

variable {σ : Type}

/-- What a path names on the machine the tool runs on. -/
inductive Entry where
  | missing
  | directory
  | file (contents : Bytes)
  deriving Repr, DecidableEq

/-- The machine the tool runs on, as the tool sees it. -/
structure Host (σ : Type) where
  /-- The working directory, as an absolute path. -/
  directory : String
  /-- What a path names; a relative path is taken from the working directory. -/
  entry : String → Entry
  /-- Standard input. -/
  input : Bytes
  /-- The value of the variable naming the library, if it is set. -/
  libraryVariable : Option String
  /-- What the loader finds at a path. -/
  image : String → Library.Image
  /-- The entry points of any library the loader loads. -/
  engine : Engine σ
  /-- The time stamp written on log lines. -/
  timestamp : String

/-- What a run of the tool leaves: its exit status and what it wrote. -/
structure Outcome where
  status : Nat
  stdout : String
  stderr : String
  deriving Repr, DecidableEq

/-- The verbosity of `verbose` and `quiet` counts: one for warnings, one more per `-v`, one less
per `-q`, in signed bytes. -/
def verbosity (verbose quiet : Nat) : Int8 :=
  let count (n : Nat) : Int8 := (UInt8.ofNat (min n 255)).toInt8
  1 - count quiet + count verbose

/-- The most detailed level logged at a verbosity; none below 0. -/
def shownLevel (v : Int8) : Option Log.Level :=
  if v < 0 then none
  else if v = 0 then some .error
  else if v = 1 then some .warn
  else if v = 2 then some .info
  else if v = 3 then some .debug
  else some .trace

/-- The log line of a diagnostic. -/
def logLine (timestamp : String) (r : Log.Record) : String :=
  let name := r.level.name
  "[" ++ timestamp ++ " " ++ name ++ String.ofList (List.replicate (5 - name.length) ' ') ++ " " ++
    r.target ++ "] " ++ r.message ++ "\n"

/-- The log of a run: the line of every diagnostic at or above the level shown. -/
def logText (timestamp : String) (level : Option Log.Level) (records : List Log.Record) : String :=
  match level with
  | none => ""
  | some l => String.join ((records.filter (·.level.rank ≤ l.rank)).map (logLine timestamp))

/-- Records a diagnostic. -/
def note (level : Log.Level) (target message : String) : Call (σ × Journal) Unit :=
  Journal.record ⟨level, target, message⟩

/-- The bytes of a file as text, or why they cannot be read as text. -/
def readText (operation path : String) : Entry → Except Failure String
  | .missing => .error (.read operation path .notFound)
  | .directory => .error (.read operation path .isDirectory)
  | .file bs =>
    match Utf8.decode bs with
    | .ok s => .ok s
    | .error _ => .error (.read operation path .notUtf8)

/-- The configuration: from the file given, else from `pgquery.toml` in the working directory
when that is a file, else the defaults. -/
def Host.loadConfig (h : Host σ) (given : Option String) :
    Call (σ × Journal) (Except Failure Config) := do
  let path := match given with
    | some p => p
    | none => h.directory ++ "/" ++ configFileName
  let isFile := match h.entry path with
    | .file _ => true
    | _ => false
  if given.isNone && !isFile then
    note .debug "pgquery::config" s!"No {configFileName} in {h.directory}, using defaults"
    return .ok {}
  match readText "reading configuration" path (h.entry path) with
  | .error f => return .error f
  | .ok text =>
    match Config.ofToml text with
    | .error e => return .error (.config path e text)
    | .ok c =>
      note .debug "pgquery::config" s!"Loaded configuration from {path}"
      return .ok c

/-- The request a session makes for the process-wide library: the library given, else the
configuration's, else the default one. -/
def sessionRequest (given : Option String) (config : Config) : Library.Request :=
  match given.or config.library with
  | some path => .install path
  | none => .global

/-- Loads the engine library the session requests. The tool makes one request in a process, so
the process-wide cell is empty and the request opens its library. -/
def Host.loadLibrary (h : Host σ) (given : Option String) (config : Config) :
    Call (σ × Journal) (Except Failure Library.Loaded) := do
  let path := (sessionRequest given config).path h.libraryVariable
  let (notes, loaded) := Library.load h.image path
  for n in notes do Journal.record n
  match loaded with
  | .error e => return .error (.binding e)
  | .ok lib =>
    note .debug "pgquery::commands" ("Using libpg_query at " ++ Debug.pathQuote lib.path)
    return .ok lib

/-- The SQL to work on: the file given, else standard input. -/
def Host.readScript (h : Host σ) : Option String → Except Failure Script
  | some path => (readText "reading SQL file" path (h.entry path)).map (⟨path, ·⟩)
  | none => (readText "reading stdin" "<stdin>" (.file h.input)).map (⟨"<stdin>", ·⟩)

/-- Carries out an invocation: what it prints, or why it fails. -/
def Host.execute (h : Host σ) (inv : Invocation) :
    Call (σ × Journal) (Except Failure String) := do
  match ← h.loadConfig inv.config with
  | .error f => return .error f
  | .ok config =>
    match ← h.loadLibrary inv.library config with
    | .error f => return .error f
    | .ok lib =>
      match h.readScript inv.file with
      | .error f => return .error f
      | .ok script => inv.request.perform (lib.engine h.engine).journaled config script

/-- The outcome of a run that went as far as carrying out an invocation. -/
def Host.finish (h : Host σ) (inv : Invocation) (result : Except Panic (Except Failure String))
    (journal : Journal) : Outcome :=
  let log := logText h.timestamp (shownLevel (verbosity inv.verbose inv.quiet)) journal
  match result with
  | .ok (.ok out) => ⟨0, out, log⟩
  | .ok (.error f) => ⟨1, "", log ++ "Error: " ++ f.diagnostic.render ++ "\n"⟩
  | .error p => ⟨101, "", log ++ "thread 'main' panicked:\n" ++ p.message ++ "\n"⟩

/-- Runs the tool on the words of its command line, the tool's name left out, starting from
engine state `s`: the outcome and the engine's state after it. -/
def Host.run (h : Host σ) (words : List String) (s : σ) : Outcome × σ :=
  match readCommandLine words with
  | .error (.help text) => (⟨0, text, ""⟩, s)
  | .error (.helpForNothing text) => (⟨2, "", text⟩, s)
  | .error (.refuse e) => (⟨2, "", e.render⟩, s)
  | .ok inv =>
    match (h.execute inv).run (s, []) with
    | .ok r (s', journal) => (h.finish inv (.ok r) journal, s')
    | .error p (s', journal) => (h.finish inv (.error p) journal, s')

end Cli
end PgBinding
