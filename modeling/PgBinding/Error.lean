import PgBinding.Text.Utf8
import PgBinding.Wire.Basic
/-!
Errors of the binding layer.

Each error is a cause with its facts; `Error.message` words it, `Error.code` names it for
diagnostics, and `Error.causes` lists the lower-level errors it was caused by. An engine error is
copied out of the engine's native record before the record is released: a missing or empty
message becomes `unknown error`, invalid UTF-8 is replaced, and a negative line or cursor
becomes 0.
-/
namespace PgBinding

/-- Caller input rejected before anything reaches the engine. -/
inductive PreconditionError where
  | emptyBuffer
  | missingTerminator
  | interiorNul (position : Nat)
  | valueTooLarge (field : String) (value : Nat)
  deriving Repr, DecidableEq

namespace PreconditionError

/-- The wording of a precondition failure. -/
def message : PreconditionError → String
  | .emptyBuffer => "input buffer is empty; it must at least hold the NUL terminator"
  | .missingTerminator => "input buffer must be NUL-terminated (last byte == 0x00)"
  | .interiorNul p =>
    s!"input contains a NUL byte at offset {p}; only the terminator may be NUL"
  | .valueTooLarge field value => s!"{field} value {value} does not fit in a C int"

/-- The name of the failure's kind. -/
def kindName : PreconditionError → String
  | .emptyBuffer => "EmptyBuffer"
  | .missingTerminator => "MissingTerminator"
  | .interiorNul _ => "InteriorNul"
  | .valueTooLarge _ _ => "ValueTooLarge"

end PreconditionError

/-- The native error record an engine returns: C strings (null or their bytes before the
terminator) and two C ints. -/
structure NativeError where
  message : Option Bytes := none
  funcname : Option Bytes := none
  filename : Option Bytes := none
  lineno : Int32 := 0
  cursorpos : Int32 := 0
  context : Option Bytes := none
  deriving Repr, DecidableEq

/-- An error reported by the engine itself. -/
structure EngineError where
  message : String
  function : Option String
  file : Option String
  /-- Line in `file`; 0 if unknown. -/
  line : Nat
  /-- One-based byte offset into the input; 0 if unknown. -/
  cursorPosition : Nat
  context : Option String
  deriving Repr, DecidableEq

namespace EngineError

/-- The message that stands in for a missing or empty one. -/
def fallbackMessage : String := "unknown error"

/-- A C int that must not be negative, with 0 for a negative one. -/
def clampNonNegative (v : Int32) : Nat := v.toInt.toNat

/-- Copies a native error record. -/
def ofNative (r : NativeError) : EngineError :=
  let message := (r.message.map Utf8.lossy).getD ""
  { message := if message.isEmpty then fallbackMessage else message
    function := r.funcname.map Utf8.lossy
    file := r.filename.map Utf8.lossy
    line := clampNonNegative r.lineno
    cursorPosition := clampNonNegative r.cursorpos
    context := r.context.map Utf8.lossy }

/-- Where in the engine's sources the error was raised: `file:line`, the file alone, or the
line alone, as far as they are known. -/
def sourceLocation (e : EngineError) : Option String :=
  match e.file, e.line with
  | some f, 0 => some f
  | some f, l => some s!"{f}:{l}"
  | none, 0 => none
  | none, l => some s!"line {l}"

end EngineError

/-- Errors of every operation of the binding layer. -/
inductive Error where
  | precondition (e : PreconditionError)
  | engine (e : EngineError)
  | invalidParseMode (value : Int32)
  /-- A protobuf payload of the engine did not decode. -/
  | decode (what : String) (source : Wire.DecodeError)
  /-- A text of the engine is not UTF-8. -/
  | invalidUtf8 (what : String) (source : Utf8.Error)
  /-- A JSON text of the engine did not parse; `source` is the reader's message. -/
  | json (what : String) (source : String)
  | outOfRange (what : String) (value : Int)
  | spanOutOfBounds (location length inputLen : Nat)
  /-- The library could not be loaded; `source` is the loader's message. -/
  | load (path : String) (source : String)
  | missingSymbol (symbol : String) (source : String)
  | unsupported (symbol : String)
  deriving Repr

namespace Error

/-- The largest value of a signed 64-bit integer: out-of-range values are reported as such,
clamped to it. -/
def int64Max : Nat := 9223372036854775807  -- 2 ^ 63 - 1

/-- An out-of-range count or length, clamped to the largest signed 64-bit value. -/
def outOfRangeCount (what : String) (n : Nat) : Error := .outOfRange what (min n int64Max)

/-- The wording of an error. -/
def message : Error → String
  | .precondition e => e.message
  | .engine e => e.message
  | .invalidParseMode v => s!"invalid parse mode {v}; expected a value between 0 and 5"
  | .decode what _ => s!"failed to decode {what} payload returned by the engine"
  | .invalidUtf8 what _ => s!"engine returned {what} that is not valid UTF-8"
  | .json what _ => s!"failed to decode {what} JSON returned by the engine"
  | .outOfRange what v => s!"engine returned an out-of-range {what}: {v}"
  | .spanOutOfBounds l n len =>
    s!"statement span [{l}..{l}+{n}) does not fit the {len}-byte input"
  | .load path _ => s!"failed to load libpg_query from {path}"
  | .missingSymbol s _ => "libpg_query does not export \x60" ++ s ++ "\x60"
  | .unsupported s => "the loaded engine does not provide \x60" ++ s ++ "\x60"

/-- The diagnostic code of an error. -/
def code : Error → String
  | .precondition .emptyBuffer => "pgquery::buffer::empty"
  | .precondition .missingTerminator => "pgquery::buffer::missing_terminator"
  | .precondition (.interiorNul _) => "pgquery::buffer::interior_nul"
  | .precondition (.valueTooLarge _ _) => "pgquery::deparse::value_too_large"
  | .engine _ => "pgquery::engine"
  | .invalidParseMode _ => "pgquery::options::parse_mode"
  | .decode _ _ => "pgquery::decode"
  | .invalidUtf8 _ _ => "pgquery::utf8"
  | .json _ _ => "pgquery::json"
  | .outOfRange _ _ => "pgquery::out_of_range"
  | .spanOutOfBounds _ _ _ => "pgquery::split::span"
  | .load _ _ => "pgquery::library::load"
  | .missingSymbol _ _ => "pgquery::library::symbol"
  | .unsupported _ => "pgquery::library::unsupported"

/-- The advice shown with an error, if any. -/
def help : Error → Option String
  | .precondition .missingTerminator =>
    some "append a single 0x00 byte, or pass the SQL as text instead"
  | .engine e => e.context
  | .load _ _ => some "set PGQUERY_LIBRARY to the path of the libpg_query shared library"
  | _ => none

/-- The messages of the errors that caused this one, outermost first. -/
def causes : Error → List String
  | .decode _ e => [e.message]
  | .invalidUtf8 _ e => [e.message]
  | .json _ e => [e]
  | .load _ e => [e]
  | .missingSymbol _ e => [e]
  | _ => []

/-- The engine error, if the engine reported this failure. -/
def asEngine? : Error → Option EngineError
  | .engine e => some e
  | _ => none

end Error

end PgBinding
