import PgBinding.Error
import PgBinding.Engine.Basic
/-!
Statement spans: the half-open byte range `[location, location + length)` of one statement of
an input, and the statement's text cut out of the input by it.

The fields are `usize` offsets of a 64-bit target. The end of the range is their sum, taken
with the overflow check of the default build: a sum past `usizeMax` panics.
-/
namespace PgBinding

/-- The byte range of one statement. -/
structure StatementSpan where
  location : Nat := 0
  length : Nat := 0
  deriving Repr, DecidableEq

/-- The largest `usize` of a 64-bit target. -/
def usizeMax : Nat := 18446744073709551615  -- 2 ^ 64 - 1

/-- The range `location..location + length`. The end is a `usize` sum, which panics when it
overflows. -/
def StatementSpan.range (span : StatementSpan) : Except Panic (Nat × Nat) :=
  if span.location + span.length ≤ usizeMax then .ok (span.location, span.location + span.length)
  else .error ⟨"attempt to add with overflow"⟩

/-- The text of `sql` between two byte offsets, which must both lie within it on character
boundaries; otherwise the span is refused with its own fields and the text's length. -/
def StatementSpan.cut (span : StatementSpan) (sql : String) (start stop : Nat) :
    Except Error String :=
  match Utf8.slice? sql start stop with
  | some s => .ok s
  | none => .error (.spanOutOfBounds span.location span.length sql.utf8ByteSize)

/-- The statement's text: the text of the span's range, which is taken first and can panic. -/
def StatementSpan.slice (span : StatementSpan) (sql : String) :
    Except Panic (Except Error String) :=
  span.range.map fun r => span.cut sql r.1 r.2

end PgBinding
