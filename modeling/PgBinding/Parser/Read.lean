import PgBinding.Parser.Run
import PgBinding.Materialize
import PgBinding.Options
import PgBinding.Span
import PgBinding.Tree.Parsed
import PgBinding.Scan.Token
/-!
The operations that read an input text: parsing (to a tree, to JSON, as PL/pgSQL), normalizing,
fingerprinting, splitting, scanning and summarizing.

Each takes the input either as text, which is copied and terminated, or as caller bytes that must
already be terminated; both reach the engine as the same bytes.
-/
namespace PgBinding
namespace Parser

open Materialize

variable {σ : Type}

/-- A query fingerprint: the hash and its text as the engine prints it. -/
structure Fingerprint where
  value : UInt64
  text : String
  deriving Repr, DecidableEq

/-- Parses a buffer into its parse tree. -/
def parseBuffer (e : Engine σ) (buf : Buffer) (o : ParseOptions) :
    Call σ (Except Error Tree.ParseTree) :=
  run e .parseProtobuf (e.parseProtobuf buf.content o.bits) (·.error) fun r => do
    let bs ← payloadBytes "parse tree" r.payload
    (Tree.ParseTree.decode bs).mapError (Error.decode "parse tree")

/-- Parses a text into its parse tree. -/
def parse (e : Engine σ) (sql : String) (o : ParseOptions) :
    Call σ (Except Error Tree.ParseTree) :=
  withBuffer (Buffer.ofText sql) (parseBuffer e · o)

/-- Parses terminated bytes into their parse tree. -/
def parseBytes (e : Engine σ) (sql : Bytes) (o : ParseOptions) :
    Call σ (Except Error Tree.ParseTree) :=
  withBuffer (Buffer.ofBytes sql) (parseBuffer e · o)

/-- Parses a text into the engine's JSON form of its tree. -/
def parseJson (e : Engine σ) (sql : String) (o : ParseOptions) :
    Call σ (Except Error Json.Value) :=
  withBuffer (Buffer.ofText sql) fun buf =>
    run e .parse (e.parseJson buf.content o.bits) (·.error) fun r =>
      jsonPayload "parse tree" r.text

/-- Parses the body of a PL/pgSQL function into the engine's JSON form. -/
def parsePlpgsql (e : Engine σ) (sql : String) : Call σ (Except Error Json.Value) :=
  withBuffer (Buffer.ofText sql) fun buf =>
    run e .parsePlpgsql (e.parsePlpgsql buf.content) (·.error) fun r =>
      jsonPayload "PL/pgSQL functions" r.text

/-- Replaces the constants of a text by parameter references. -/
def normalize (e : Engine σ) (sql : String) : Call σ (Except Error String) :=
  withBuffer (Buffer.ofText sql) fun buf =>
    run e .normalize (e.normalize buf.content) (·.error) fun r =>
      utf8String "normalized query" r.text

/-- Normalizes utility statements too. -/
def normalizeUtility (e : Engine σ) (sql : String) : Call σ (Except Error String) :=
  withBuffer (Buffer.ofText sql) fun buf =>
    run e .normalize (e.normalizeUtility buf.content) (·.error) fun r =>
      utf8String "normalized query" r.text

/-- Fingerprints a buffer. -/
def fingerprintBuffer (e : Engine σ) (buf : Buffer) (o : ParseOptions) :
    Call σ (Except Error Fingerprint) :=
  run e .fingerprint (e.fingerprint buf.content o.bits) (·.error) fun r =>
    (utf8String "fingerprint" r.text).map fun text => ⟨r.value, text⟩

/-- Fingerprints a text. -/
def fingerprint (e : Engine σ) (sql : String) (o : ParseOptions) :
    Call σ (Except Error Fingerprint) :=
  withBuffer (Buffer.ofText sql) (fingerprintBuffer e · o)

/-- Fingerprints terminated bytes. -/
def fingerprintBytes (e : Engine σ) (sql : Bytes) (o : ParseOptions) :
    Call σ (Except Error Fingerprint) :=
  withBuffer (Buffer.ofBytes sql) (fingerprintBuffer e · o)

/-- The span of a native statement record; a null record is the empty span at 0. -/
def spanOf : Option (Int32 × Int32) → Except Error StatementSpan
  | none => .ok {}
  | some (location, length) => do
    let location ← nonNegative "statement location" location
    let length ← nonNegative "statement length" length
    pure ⟨location, length⟩

/-- The statement spans of a split result: the count, then the array, then each record. -/
def spansOf (r : SplitReply) : Except Error (List StatementSpan) := do
  let count ← nonNegative "statement count" r.count
  let stmts ← pointerArray "statement list" r.stmts count
  stmts.mapM spanOf

/-- Splits a buffer into statement spans. -/
def splitBuffer (e : Engine σ) (buf : Buffer) (a : SplitAlgorithm) :
    Call σ (Except Error (List StatementSpan)) :=
  let invoke := match a with
    | .scanner => e.splitWithScanner buf.content
    | .parser => e.splitWithParser buf.content
  run e .split invoke (·.error) spansOf

/-- Splits a text into statement spans. -/
def splitSpans (e : Engine σ) (sql : String) (a : SplitAlgorithm) :
    Call σ (Except Error (List StatementSpan)) :=
  withBuffer (Buffer.ofText sql) (splitBuffer e · a)

/-- Splits terminated bytes into statement spans. -/
def splitBytes (e : Engine σ) (sql : Bytes) (a : SplitAlgorithm) :
    Call σ (Except Error (List StatementSpan)) :=
  withBuffer (Buffer.ofBytes sql) (splitBuffer e · a)

/-- The texts of spans, in order: the first span whose range panics, or that does not fit the
text, ends the list with its panic or its refusal. -/
def sliceSpans (sql : String) : List StatementSpan → Except Panic (Except Error (List String))
  | [] => .ok (.ok [])
  | span :: spans =>
    match span.slice sql with
    | .error p => .error p
    | .ok (.error err) => .ok (.error err)
    | .ok (.ok t) => (sliceSpans sql spans).map fun texts => texts.map (t :: ·)

/-- Splits a text into statement texts: the spans are cut out of the text once the result they
came in has been released. -/
def split (e : Engine σ) (sql : String) (a : SplitAlgorithm) :
    Call σ (Except Error (List String)) := do
  match ← splitSpans e sql a with
  | .error err => pure (.error err)
  | .ok spans =>
    match sliceSpans sql spans with
    | .ok texts => pure texts
    | .error p => throw p

/-- Scans a buffer into tokens. -/
def scanBuffer (e : Engine σ) (buf : Buffer) : Call σ (Except Error Scan.Scanned) :=
  run e .scan (e.scan buf.content) (·.error) fun r => do
    let bs ← payloadBytes "scan result" r.payload
    (Scan.Scanned.decode bs).mapError (Error.decode "scan result")

/-- Scans a text into tokens. -/
def scan (e : Engine σ) (sql : String) : Call σ (Except Error Scan.Scanned) :=
  withBuffer (Buffer.ofText sql) (scanBuffer e)

/-- Scans terminated bytes into tokens. -/
def scanBytes (e : Engine σ) (sql : Bytes) : Call σ (Except Error Scan.Scanned) :=
  withBuffer (Buffer.ofBytes sql) (scanBuffer e)

/-- The engine's encoded summary of a text; a truncation limit of -1 truncates nothing. -/
def summary (e : Engine σ) (sql : String) (o : ParseOptions) (truncateLimit : Int32) :
    Call σ (Except Error Bytes) :=
  withBuffer (Buffer.ofText sql) fun buf =>
    runOptional e .summary "pg_query_summary" (e.summary buf.content o.bits truncateLimit)
      (·.error) fun r => payloadBytes "summary" r.payload

end Parser
end PgBinding
