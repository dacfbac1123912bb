import PgBinding.Engine.Scripted
import PgBinding.Toy.Engine
import PgBinding.Json.Value
import PgBinding.Text.Hex
/-!
Engine states as JSON: the scripted engine's calls and ledger, and the toy engine's ledger.

Bytes the engine received are shown as text when they are UTF-8, and as hex otherwise.
-/
namespace PgBinding
namespace View

open Json

/-- Received bytes: their text if UTF-8, else their hex. -/
def received (bs : Bytes) : Value :=
  match Utf8.decode bs with
  | .ok s => .str s
  | .error _ => .object [("hex", .str (Hex.encode bs))]

/-- A comment record as the engine received it. -/
def commentRecordJson (c : CommentRecord) : Value :=
  .object [("match_location", .ofInt c.matchLocation.toInt),
    ("newlines_before_comment", .ofInt c.newlinesBefore.toInt),
    ("newlines_after_comment", .ofInt c.newlinesAfter.toInt),
    ("str", (c.text.map received).getD .null)]

/-- Deparse options as the engine received them. -/
def nativeOptionsJson (o : NativeDeparseOptions) : Value :=
  let comments := o.comments.getD []
  .object [("comments_null", .bool o.comments.isNone), ("comment_count", .ofNat comments.length),
    ("comments", .arr (comments.map commentRecordJson)), ("pretty_print", .bool o.prettyPrint),
    ("indent_size", .ofInt o.indentSize.toInt), ("max_line_length", .ofInt o.maxLineLength.toInt),
    ("trailing_newline", .bool o.trailingNewline),
    ("commas_start_of_line", .bool o.commasStartOfLine)]

/-- A tree payload as the engine received it. -/
def treeMembers (p : Payload) : List (String × Value) :=
  [("tree", .str (Hex.encode ((p.data.getD []).take p.len))), ("len", .ofNat p.len),
   ("data_null", .bool p.data.isNone)]

/-- What a logged call received. -/
def argumentMembers : Scripted.Argument → List (String × Value)
  | .none => []
  | .input bs => [("input", received bs)]
  | .withOptions bs o => [("input", received bs), ("options", .ofInt o.toInt)]
  | .summary bs o limit =>
    [("input", received bs), ("options", .ofInt o.toInt), ("truncate_limit", .ofInt limit.toInt)]
  | .tree p => treeMembers p
  | .treeWithOptions p o => treeMembers p ++ [("opts", nativeOptionsJson o)]

/-- A logged call. -/
def callJson (c : Scripted.CallRecord) : Value :=
  .object ([("fn", .str c.entry), ("counted", .bool c.counted)] ++ argumentMembers c.argument)

/-- The scripted engine's ledger. -/
def ledgerJson (l : Scripted.Ledger) : Value :=
  .object [("dispatched", .ofNat l.dispatched), ("released", .ofNat l.released),
    ("live", .ofNat l.live), ("bad_frees", .ofNat l.badFrees)]

/-- Captured deparse options of the toy engine. -/
def capturedJson (o : Toy.CapturedOptions) : Value :=
  .object [("pretty_print", .bool o.prettyPrint), ("indent_size", .ofInt o.indentSize.toInt),
    ("max_line_length", .ofInt o.maxLineLength.toInt), ("trailing_newline", .bool o.trailingNewline),
    ("commas_start_of_line", .bool o.commasStartOfLine),
    ("comments", .arr (o.comments.map fun (l, b, a, t) =>
      .arr [.ofInt l.toInt, .ofInt b.toInt, .ofInt a.toInt, .str t]))]

/-- The toy engine's ledger. -/
def toyJson (s : Toy.State) : Value :=
  .object [("balanced", .bool s.balanced), ("dispatched", .ofNat s.dispatched),
    ("released", .ofNat s.released), ("last_options", .ofOption (fun o => .ofInt o.toInt) s.lastOptions),
    ("last_deparse_opts", .ofOption capturedJson s.lastDeparseOptions)]

end View
end PgBinding
