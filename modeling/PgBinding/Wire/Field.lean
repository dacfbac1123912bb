import PgBinding.Wire.Basic
/-!
Reading single fields of the wire format: scalars, strings, byte strings and length-delimited
sub-messages, each after checking the field's wire type.

A sub-message costs one level of the nesting budget, checked after its wire type and before its
length; its body is read from the whole remaining input down to a limit, so a length inside it
that reaches past its end is noticed only when the body ends.
-/
namespace PgBinding
namespace Wire

/-- The nesting budget of a decode from the top: messages within messages, a hundred deep. -/
def nestingLimit : Nat := 100

/-- Reads a length prefix: the limit of the body that follows, and the input after the prefix. -/
def enterBody (bs : Bytes) : Except DecodeError (Nat × Bytes) := do
  let (len, rest) ← readVarint bs
  if len > rest.length then fail "buffer underflow" else .ok (rest.length - len, rest)

/-- Reads a length-delimited string field, which must be UTF-8. -/
def readText (wt : WireType) (bs : Bytes) : Except DecodeError (String × Bytes) := do
  expect wt .lengthDelimited
  let (chunk, rest) ← readChunk bs
  match Utf8.decode chunk with
  | .ok s => .ok (s, rest)
  | .error _ => fail "invalid string value: data is not UTF-8 encoded"

/-- Reads a length-delimited bytes field. -/
def readBytes (wt : WireType) (bs : Bytes) : Except DecodeError (Bytes × Bytes) := do
  expect wt .lengthDelimited
  readChunk bs

/-- Reads a varint field. -/
def readScalar (wt : WireType) (bs : Bytes) : Except DecodeError (Nat × Bytes) := do
  expect wt .varint
  readVarint bs

/-- Tags a decoding error with the field it arose in. -/
def inField {α : Type} (msg field : String) :
    Except DecodeError α → Except DecodeError α
  | .error e => .error (e.push msg field)
  | .ok a => .ok a

/-- Reads a signed 32-bit field. -/
def readInt32 (wt : WireType) (bs : Bytes) : Except DecodeError (Int32 × Bytes) :=
  (readScalar wt bs).map fun (v, rest) => (toInt32 v, rest)

/-- Reads a length-delimited sub-message with `step`: one nesting level. -/
def readNested {σ : Type} (depth : Nat) (init : σ)
    (step : Nat → σ → Nat → WireType → Bytes → Except DecodeError (σ × Bytes))
    (wt : WireType) (bs : Bytes) : Except DecodeError (σ × Bytes) := do
  expect wt .lengthDelimited
  if depth = 0 then fail "recursion limit reached" else
  let (limit, rest) ← enterBody bs
  readFields (step (depth - 1)) (rest.length + 1) init limit rest

end Wire
end PgBinding
