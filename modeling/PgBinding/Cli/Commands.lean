import PgBinding.Cli.Invocation
import PgBinding.Cli.Config
import PgBinding.Cli.Failure
import PgBinding.Parser.Read
import PgBinding.Parser.Deparse
import PgBinding.Json.Write
import PgBinding.Serialized
import PgBinding.Text.Blank
/-!
What each command of the tool does with the SQL it reads, and what it prints.

Every command makes its engine calls with the options of the configuration, a grammar entry point
or splitting algorithm given on the command line taking precedence, and prints JSON with two-space
indentation, members in a fixed order. An engine error becomes a report on the SQL text.
-/
namespace PgBinding
namespace Cli

open Json

variable {σ : Type}

/-- SQL read by the tool: the name it is shown under and its text. -/
structure Script where
  name : String
  sql : String
  deriving Repr, DecidableEq

/-- One statement of a parse tree as the statement listing shows it. -/
structure StatementInfo where
  location : Nat
  length : Nat
  nodeTag : Option Nat
  kind : Option String
  /-- The statement's text, blanks trimmed; empty when its span is not a piece of the text. -/
  text : String
  deriving Repr, DecidableEq

/-- The listing entry of a statement of `sql`. A negative location or length counts as 0, and a
length of 0 reaches the end of the text. -/
def StatementInfo.of (sql : String) (s : Tree.Statement) : StatementInfo :=
  let location := s.location.toInt.toNat
  let length := match s.length.toInt.toNat with
    | 0 => sql.utf8ByteSize - location
    | n => n
  { location, length, nodeTag := s.nodeTag, kind := s.stmt.bind Tree.Node.name,
    text := ((Utf8.slice? sql location (location + length)).map Text.trim).getD "" }

/-- The JSON form of a listing entry. -/
def StatementInfo.toJson (i : StatementInfo) : Value :=
  .obj [("location", .ofNat i.location), ("length", .ofNat i.length),
    ("node_tag", .ofOption .ofNat i.nodeTag), ("kind", .ofOption .str i.kind),
    ("text", .str i.text)]

/-- Pretty JSON on a line of its own. -/
def printJson (v : Value) : String := v.pretty 0 ++ "\n"

/-- Text padded with spaces on the left to `width` characters. -/
def padLeft (width : Nat) (s : String) : String :=
  String.ofList (List.replicate (width - s.length) ' ') ++ s

/-- Text padded with spaces on the right to `width` characters. -/
def padRight (width : Nat) (s : String) : String :=
  s ++ String.ofList (List.replicate (width - s.length) ' ')

/-- The line of the token listing for a token of `sql`: its byte range, its keyword class, and
the text it covers, or `?` when its range is not a piece of the text. -/
def tokenLine (sql : String) (t : Scan.Token) : String :=
  padLeft 5 (toString t.start.toInt) ++ ".." ++ padRight 5 (toString t.stop.toInt) ++ " " ++
    padRight 24 (Scan.KeywordKind.ofInt32 t.keywordKind).name ++ " " ++ (t.text sql).getD "?"

/-- The algorithm's name in the split command's diagnostic. -/
def algorithmTitle : SplitAlgorithm → String
  | .scanner => "Scanner"
  | .parser => "Parser"

/-- Records a diagnostic of the command `command`. -/
def noteCommand (e : Engine σ) (level : Log.Level) (command message : String) : Call σ Unit :=
  modify (e.note ⟨level, "pgquery::commands::" ++ command, message⟩)

/-- A result of the binding, an engine error placed in the SQL text. -/
def placed {α : Type} (input : Script) (r : Except Error α) : Except Failure α :=
  r.mapError (Failure.ofError input.name input.sql)

/-- Runs a request on SQL with the configuration `config`: what it prints, or why it fails. -/
def Request.perform (e : Engine σ) (config : Config) (input : Script) :
    Request → Call σ (Except Failure String)
  | .parse mode statements => do
    let options := { config.parseOptions with mode := mode.getD config.parseOptions.mode }
    if statements then
      let r ← Parser.parse e input.sql options
      pure (placed input r |>.map fun t =>
        printJson (.arr (t.stmts.map fun s => (StatementInfo.of input.sql s).toJson)))
    else
      let r ← Parser.parseJson e input.sql options
      pure (placed input r |>.map printJson)
  | .normalize utility => do
    let r ← if utility then Parser.normalizeUtility e input.sql else Parser.normalize e input.sql
    pure (placed input r |>.map (· ++ "\n"))
  | .fingerprint mode json => do
    let options := { config.parseOptions with mode := mode.getD config.parseOptions.mode }
    let r ← Parser.fingerprint e input.sql options
    pure (placed input r |>.map fun f =>
      if json then printJson (Serialized.fingerprintJson f) else f.text ++ "\n")
  | .split algorithm spans => do
    let algorithm := algorithm.getD config.algorithm
    if spans then
      let r ← Parser.splitSpans e input.sql algorithm
      pure (placed input r |>.map fun ss => printJson (.arr (ss.map Serialized.spanJson)))
    else
      match placed input (← Parser.split e input.sql algorithm) with
      | .error f => pure (.error f)
      | .ok statements => do
        noteCommand e .info "split"
          s!"Split {statements.length} statements with the {algorithmTitle algorithm} algorithm"
        pure (.ok (String.join (statements.map fun s => Text.trim s ++ ";\n")))
  | .scan => do
    let r ← Parser.scan e input.sql
    pure (placed input r |>.map fun s =>
      String.join (s.tokens.map fun t => tokenLine input.sql t ++ "\n"))
  | .format => do
    match placed input (← Parser.parse e input.sql config.parseOptions) with
    | .error f => pure (.error f)
    | .ok tree =>
      let comments : Except Failure (List Parser.DeparseComment) ←
        match ← Parser.extractComments e input.sql with
        | .ok cs => pure (.ok cs)
        | .error (.unsupported symbol) => do
          noteCommand e .warn "format" (symbol ++ " is not available; comments will be dropped")
          pure (.ok [])
        | .error err => pure (.error (Failure.ofError input.name input.sql err))
      match comments with
      | .error f => pure (.error f)
      | .ok cs =>
        let r ← Parser.deparseWithComments e tree config.deparse cs
        pure (placed input r |>.map fun text => if text.endsWith "\n" then text else text ++ "\n")
  | .comments => do
    let r ← Parser.extractComments e input.sql
    pure (placed input r |>.map fun cs => printJson (.arr (cs.map Serialized.commentJson)))

end Cli
end PgBinding
