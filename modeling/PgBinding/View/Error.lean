import PgBinding.Error
import PgBinding.Json.Value
/-!
Errors as JSON: the error's kind, its message, and its facts by name.
-/
namespace PgBinding
namespace View

open Json

/-- A text that may be absent. -/
def optText (s : Option String) : Value := .ofOption .str s

/-- The kind name and facts of an error. -/
def errorDetail : Error → String × List (String × Value)
  | .precondition p =>
    ("Precondition", match p with
      | .interiorNul pos => [("position", .ofNat pos)]
      | .valueTooLarge field value => [("field", .str field), ("value", .ofNat value)]
      | _ => [])
  | .engine e =>
    ("Engine", [("message", .str e.message), ("function", optText e.function),
      ("file", optText e.file), ("line", .ofNat e.line),
      ("cursor_position", .ofNat e.cursorPosition), ("context", optText e.context),
      ("source_location", optText e.sourceLocation)])
  | .invalidParseMode v => ("InvalidParseMode", [("value", .ofInt v.toInt)])
  | .decode what _ => ("Decode", [("what", .str what)])
  | .invalidUtf8 what _ => ("InvalidUtf8", [("what", .str what)])
  | .json what _ => ("Json", [("what", .str what)])
  | .outOfRange what v => ("OutOfRange", [("what", .str what), ("value", .ofInt v)])
  | .spanOutOfBounds l n len =>
    ("SpanOutOfBounds", [("location", .ofNat l), ("length", .ofNat n), ("input_len", .ofNat len)])
  | .load path _ => ("Load", [("path", .str path)])
  | .missingSymbol s _ => ("MissingSymbol", [("symbol", .str s)])
  | .unsupported s => ("Unsupported", [("symbol", .str s)])

/-- The members of an error answer: kind, message, facts, and a precondition's own kind. -/
def errorMembers (e : Error) : List (String × Value) :=
  let (kind, detail) := errorDetail e
  let base := [("error", .str kind), ("message", .str e.message), ("detail", .object detail)]
  match e with
  | .precondition p => base ++ [("kind", .str p.kindName)]
  | _ => base

end View
end PgBinding
