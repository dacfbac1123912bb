import PgBinding.Text.Utf8
/-!
The protobuf wire format: base-128 varints, field keys, and skipping fields nobody asked for.

A varint is at most ten octets and its tenth octet may only be 0 or 1, so every varint read is
below `2^64`. A key is a varint below `2^32`: the field number above three bits of wire type.
Errors keep the decoder's wording, and the fields they were found in, innermost first.
-/
namespace PgBinding
namespace Wire

/-- How a field's value is laid out. -/
inductive WireType where
  | varint
  | fixed64
  | lengthDelimited
  | startGroup
  | endGroup
  | fixed32
  deriving Repr, DecidableEq

/-- The three-bit code of a wire type. -/
def WireType.code : WireType → Nat
  | .varint => 0
  | .fixed64 => 1
  | .lengthDelimited => 2
  | .startGroup => 3
  | .endGroup => 4
  | .fixed32 => 5

/-- The wire type of a three-bit code. -/
def WireType.ofCode? : Nat → Option WireType
  | 0 => some .varint
  | 1 => some .fixed64
  | 2 => some .lengthDelimited
  | 3 => some .startGroup
  | 4 => some .endGroup
  | 5 => some .fixed32
  | _ => none

/-- The name a decoding error gives a wire type. -/
def WireType.name : WireType → String
  | .varint => "Varint"
  | .fixed64 => "SixtyFourBit"
  | .lengthDelimited => "LengthDelimited"
  | .startGroup => "StartGroup"
  | .endGroup => "EndGroup"
  | .fixed32 => "ThirtyTwoBit"

/-- Why bytes do not decode: the description, and the `(message, field)` pairs it was found
in, innermost first. -/
structure DecodeError where
  description : String
  stack : List (String × String) := []
  deriving Repr, DecidableEq

/-- The full wording of a decoding error. -/
def DecodeError.message (e : DecodeError) : String :=
  "failed to decode Protobuf message: " ++
    String.join (e.stack.map fun (m, f) => m ++ "." ++ f ++ ": ") ++ e.description

/-- Records that the error arose in field `field` of message `msg`. -/
def DecodeError.push (e : DecodeError) (msg field : String) : DecodeError :=
  { e with stack := e.stack ++ [(msg, field)] }

/-- A decoding step: a value and the bytes after it, or an error. -/
abbrev Decoded (α : Type) := Except DecodeError (α × Bytes)

/-- Fails with a description. -/
def fail {α : Type} (description : String) : Except DecodeError α := .error ⟨description, []⟩

/-- Reads a varint: at most ten octets, the tenth at most 1. -/
def readVarint (bs : Bytes) : Decoded Nat :=
  let rec go : Nat → Nat → Nat → Bytes → Decoded Nat
    | _, _, _, [] => fail "invalid varint"
    | i, shift, acc, b :: rest =>
      let acc := acc + (b.toNat % 128) * Nat.pow 2 shift
      if b.toNat < 128 then
        if i = 9 ∧ b.toNat ≥ 2 then fail "invalid varint" else .ok (acc, rest)
      else if i ≥ 9 then fail "invalid varint"
      else go (i + 1) (shift + 7) acc rest
  go 0 0 0 bs

/-- Writes a varint (of a value below `2^64`). -/
def writeVarint (n : Nat) : Bytes :=
  let rec go : Nat → Nat → Bytes
    | 0, _ => []
    | fuel + 1, n =>
      if n < 128 then [UInt8.ofNat n] else UInt8.ofNat (n % 128 + 128) :: go fuel (n / 128)
  go 10 n

/-- Reads a field key: its number and wire type. -/
def readKey (bs : Bytes) : Except DecodeError ((Nat × WireType) × Bytes) := do
  let (key, rest) ← readVarint bs
  if key > Nat.pow 2 32 - 1 then fail s!"invalid key value: {key}"
  else match WireType.ofCode? (key % 8) with
    | none => fail s!"invalid wire type value: {key % 8}"
    | some wt =>
      if key / 8 = 0 then fail "invalid tag value: 0" else .ok ((key / 8, wt), rest)

/-- Writes a field key. -/
def writeKey (number : Nat) (wt : WireType) : Bytes := writeVarint (number * 8 + wt.code)

/-- Insists on a wire type. -/
def expect (actual expected : WireType) : Except DecodeError Unit :=
  if actual = expected then .ok ()
  else fail s!"invalid wire type: {actual.name} (expected {expected.name})"

/-- Reads a length prefix and the bytes it covers. -/
def readChunk (bs : Bytes) : Except DecodeError (Bytes × Bytes) := do
  let (len, rest) ← readVarint bs
  if len > rest.length then fail "buffer underflow" else .ok (rest.take len, rest.drop len)

/-- The number of octets of the varint of `n` (of a value below `2^64`): seven bits an octet. -/
def varintLen (n : Nat) : Nat :=
  let rec go : Nat → Nat → Nat
    | 0, _ => 0
    | fuel + 1, n => if n < 128 then 1 else go fuel (n / 128) + 1
  go 10 n

/-- The number of octets of a length-delimited field whose payload is `len` octets long. -/
def chunkLen (number len : Nat) : Nat :=
  varintLen (number * 8 + WireType.lengthDelimited.code) + varintLen len + len

/-- Writes a length-delimited field whose payload length `len` was computed beforehand. -/
def writeFramed (number len : Nat) (payload : Bytes) : Bytes :=
  writeKey number .lengthDelimited ++ writeVarint len ++ payload

/-- Writes a length-delimited chunk. -/
def writeChunk (number : Nat) (payload : Bytes) : Bytes :=
  writeFramed number payload.length payload

mutual
/-- Skips the value of an unknown field. `depth` is the nesting still allowed; a group nests
one level. -/
def skipValue : Nat → Nat → WireType → Nat → Bytes → Except DecodeError Bytes
  | 0, _, _, _, _ => fail "invalid varint"
  | fuel + 1, depth, wt, number, bs =>
    if depth = 0 then fail "recursion limit reached" else
    match wt with
    | .varint => (readVarint bs).map (·.2)
    | .fixed64 => if bs.length < 8 then fail "buffer underflow" else .ok (bs.drop 8)
    | .fixed32 => if bs.length < 4 then fail "buffer underflow" else .ok (bs.drop 4)
    | .lengthDelimited => (readChunk bs).map (·.2)
    | .endGroup => fail "unexpected end group tag"
    | .startGroup => skipGroup fuel depth number bs

/-- Skips the members of a group up to its end key, which must carry the group's number. -/
def skipGroup : Nat → Nat → Nat → Bytes → Except DecodeError Bytes
  | 0, _, _, _ => fail "invalid varint"
  | fuel + 1, depth, number, bs =>
    match readKey bs with
    | .error e => .error e
    | .ok ((inner, iwt), rest) =>
      if iwt = .endGroup then
        if inner = number then .ok rest else fail "unexpected end group tag"
      else
        match skipValue fuel (depth - 1) iwt inner rest with
        | .error e => .error e
        | .ok rest => skipGroup fuel depth number rest
end

/-- Skips the value of an unknown field. -/
def skipField (depth : Nat) (wt : WireType) (number : Nat) (bs : Bytes) :
    Except DecodeError Bytes :=
  skipValue (2 * bs.length + 2) depth wt number bs

/-- Reads the fields of a message until `limit` bytes of the input remain, passing each key to
`step`; a field that reads past the limit is an error once the limit is crossed. Each step reads
at least its key, so the input's length in fuel suffices. -/
def readFields {σ : Type} (step : σ → Nat → WireType → Bytes → Except DecodeError (σ × Bytes)) :
    Nat → σ → Nat → Bytes → Except DecodeError (σ × Bytes)
  | 0, _, _, _ => fail "invalid varint"
  | fuel + 1, s, limit, bs =>
    if bs.length > limit then
      match readKey bs with
      | .error e => .error e
      | .ok ((n, wt), rest) =>
        match step s n wt rest with
        | .error e => .error e
        | .ok (s', rest') => readFields step fuel s' limit rest'
    else if bs.length = limit then .ok (s, bs)
    else fail "delimited length exceeded"

/-- The low 32 bits of a varint, as a signed value. -/
def toInt32 (n : Nat) : Int32 := (UInt32.ofNat n).toInt32

/-- The varint of a signed 32-bit value: sign-extended to 64 bits. -/
def ofInt32 (v : Int32) : Nat := v.toInt64.toUInt64.toNat

/-- A scalar field: its key and varint, unless the value is the default. -/
def writeScalar (number value : Nat) : Bytes :=
  if value = 0 then [] else writeKey number .varint ++ writeVarint value

/-- A signed 32-bit field, unless it is zero. -/
def writeInt32 (number : Nat) (v : Int32) : Bytes := writeScalar number (ofInt32 v)

/-- The number of octets `writeScalar` writes. -/
def scalarLen (number value : Nat) : Nat :=
  if value = 0 then 0 else varintLen (number * 8 + WireType.varint.code) + varintLen value

end Wire
end PgBinding
