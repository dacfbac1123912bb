import PgBinding.Error
import PgBinding.Log
/-!
The engine: the native parser library seen as one entry point per operation, each returning a
result record that the engine owns until it is handed back.

An engine works over a state of its own (a ledger, a script, a fake grammar's counters). A call
either returns its result record or panics; a panic keeps the state as it was at that point, so
whatever the engine counted before panicking stays counted. Two entry points are optional:
`none` means the engine lacks them, and then nothing is dispatched.
-/
namespace PgBinding

/-- A panic of the engine, with its message. -/
structure Panic where
  message : String
  deriving Repr, DecidableEq

/-- One engine call over state `σ`. -/
abbrev Call (σ α : Type) := EStateM Panic σ α

/-- A protobuf payload handed over the boundary: a data pointer (null, or the bytes behind it)
and a length. Unless the length is beyond any addressable size, the data holds at least that
many bytes. -/
structure Payload where
  data : Option Bytes := none
  len : Nat := 0
  deriving Repr, DecidableEq

/-- The payload of caller bytes: null data when there are none. -/
def Payload.ofBytes (bs : Bytes) : Payload :=
  { data := if bs.isEmpty then none else some bs, len := bs.length }

/-- A result holding one C string. -/
structure TextReply where
  text : Option Bytes := none
  error : Option NativeError := none
  deriving Repr, DecidableEq

/-- A result holding one protobuf payload. -/
structure PayloadReply where
  payload : Payload := {}
  error : Option NativeError := none
  deriving Repr, DecidableEq

/-- A fingerprint result: the hash and its text. -/
structure FingerprintReply where
  value : UInt64 := 0
  text : Option Bytes := none
  error : Option NativeError := none
  deriving Repr, DecidableEq

/-- A split result: an array of statement records (each null or a location and a length) and
its count. -/
structure SplitReply where
  stmts : Option (List (Option (Int32 × Int32))) := none
  count : Int32 := 0
  error : Option NativeError := none
  deriving Repr, DecidableEq

/-- A native comment record. -/
structure CommentRecord where
  matchLocation : Int32 := 0
  newlinesBefore : Int32 := 0
  newlinesAfter : Int32 := 0
  text : Option Bytes := none
  deriving Repr, DecidableEq

/-- A comments result: an array of comment records (each possibly null) and its count. -/
structure CommentsReply where
  comments : Option (List (Option CommentRecord)) := none
  count : Nat := 0
  error : Option NativeError := none
  deriving Repr, DecidableEq

/-- Deparse options as they cross the boundary: C ints, and the comment records (a null array
when there are none). -/
structure NativeDeparseOptions where
  comments : Option (List CommentRecord) := none
  prettyPrint : Bool := true
  indentSize : Int32 := 2
  maxLineLength : Int32 := 0
  trailingNewline : Bool := true
  commasStartOfLine : Bool := false
  deriving Repr, DecidableEq

/-- The shapes of result records; each has its own release entry point. -/
inductive Shape where
  | normalize
  | scan
  | parse
  | parseProtobuf
  | parsePlpgsql
  | fingerprint
  | split
  | deparse
  | deparseComments
  | summary
  deriving Repr, DecidableEq

/-- The short name of a shape in diagnostics. -/
def Shape.name : Shape → String
  | .normalize => "normalize"
  | .scan => "scan"
  | .parse => "parse"
  | .parseProtobuf => "parse_protobuf"
  | .parsePlpgsql => "parse_plpgsql"
  | .fingerprint => "fingerprint"
  | .split => "split"
  | .deparse => "deparse"
  | .deparseComments => "deparse_comments"
  | .summary => "summary"

/-- The result record of each shape. -/
@[reducible] def Shape.Record : Shape → Type
  | .normalize | .parse | .parsePlpgsql | .deparse => TextReply
  | .scan | .parseProtobuf | .summary => PayloadReply
  | .fingerprint => FingerprintReply
  | .split => SplitReply
  | .deparseComments => CommentsReply

/-- An engine over state `σ`: one entry point per operation, the release of each result shape,
the library's own set-up and tear-down, and where diagnostics go. -/
structure Engine (σ : Type) where
  normalize : Bytes → Call σ TextReply
  normalizeUtility : Bytes → Call σ TextReply
  scan : Bytes → Call σ PayloadReply
  parseJson : Bytes → Int32 → Call σ TextReply
  parseProtobuf : Bytes → Int32 → Call σ PayloadReply
  parsePlpgsql : Bytes → Call σ TextReply
  fingerprint : Bytes → Int32 → Call σ FingerprintReply
  splitWithScanner : Bytes → Call σ SplitReply
  splitWithParser : Bytes → Call σ SplitReply
  deparse : Payload → Call σ TextReply
  deparseWithOptions : Payload → NativeDeparseOptions → Call σ TextReply
  /-- Optional: `none` when the engine lacks it. -/
  deparseComments : Bytes → Call σ (Option CommentsReply)
  /-- Optional: `none` when the engine lacks it. -/
  summary : Bytes → Int32 → Int32 → Call σ (Option PayloadReply)
  /-- Hands a result record of a shape back to the engine. -/
  release : (sh : Shape) → sh.Record → σ → σ
  init : σ → σ := id
  exit : σ → σ := id
  /-- Records a diagnostic. -/
  note : Log.Record → σ → σ := fun _ s => s

end PgBinding
