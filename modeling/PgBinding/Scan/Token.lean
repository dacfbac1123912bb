import PgBinding.Wire.Field
import PgBinding.Json.Value
import PgBinding.Text.Hex
/-!
The scanner's output: the grammar's version and the tokens of the input, each with its byte
range, the grammar's token number and its keyword class.

A token's text is the input between its offsets, and exists only when both offsets are
non-negative, in order, within the input and on character boundaries.
-/
namespace PgBinding
namespace Scan

open Wire Json

/-- How reserved a keyword is. -/
inductive KeywordKind where
  | none
  | unreserved
  | colName
  | typeFuncName
  | reserved
  deriving Repr, DecidableEq

/-- The keyword class of a raw value; values outside the five classes are no keyword. -/
def KeywordKind.ofInt32 (v : Int32) : KeywordKind :=
  match v.toInt with
  | 1 => .unreserved
  | 2 => .colName
  | 3 => .typeFuncName
  | 4 => .reserved
  | _ => .none

/-- The name of a keyword class. -/
def KeywordKind.name : KeywordKind → String
  | .none => "NoKeyword"
  | .unreserved => "UnreservedKeyword"
  | .colName => "ColNameKeyword"
  | .typeFuncName => "TypeFuncNameKeyword"
  | .reserved => "ReservedKeyword"

/-- One token: its byte range in the input, the grammar's token number, and its raw keyword
class. -/
structure Token where
  start : Int32 := 0
  stop : Int32 := 0
  token : Int32 := 0
  keywordKind : Int32 := 0

/-- The scanner's output. -/
structure Scanned where
  version : Int32 := 0
  tokens : List Token := []

/-- The input text a token covers. -/
def Token.text (t : Token) (sql : String) : Option String :=
  if t.start.toInt < 0 ∨ t.stop.toInt < 0 then none
  else Utf8.slice? sql t.start.toInt.toNat t.stop.toInt.toNat

/-- Reads one field of a token. -/
def Token.mergeField (depth : Nat) (t : Token) (n : Nat) (wt : WireType) (bs : Bytes) :
    Except DecodeError (Token × Bytes) :=
  match n with
  | 1 => inField "ScanToken" "start" <|
    (readInt32 wt bs).map fun (v, rest) => ({ t with start := v }, rest)
  | 2 => inField "ScanToken" "end" <|
    (readInt32 wt bs).map fun (v, rest) => ({ t with stop := v }, rest)
  | 4 => inField "ScanToken" "token" <|
    (readInt32 wt bs).map fun (v, rest) => ({ t with token := v }, rest)
  | 5 => inField "ScanToken" "keyword_kind" <|
    (readInt32 wt bs).map fun (v, rest) => ({ t with keywordKind := v }, rest)
  | _ => (skipField depth wt n bs).map ((t, ·))

/-- Reads one field of the scanner's output. -/
def Scanned.mergeField (depth : Nat) (s : Scanned) (n : Nat) (wt : WireType) (bs : Bytes) :
    Except DecodeError (Scanned × Bytes) :=
  match n with
  | 1 => inField "ScanResult" "version" <|
    (readInt32 wt bs).map fun (v, rest) => ({ s with version := v }, rest)
  | 2 => inField "ScanResult" "tokens" <|
    (readNested depth {} Token.mergeField wt bs).map fun (t, rest) =>
      ({ s with tokens := s.tokens ++ [t] }, rest)
  | _ => (skipField depth wt n bs).map ((s, ·))

/-- Decodes the scanner's output; the empty payload has no tokens. -/
def Scanned.decode (bs : Bytes) : Except DecodeError Scanned :=
  if bs.isEmpty then .ok {} else
  (readFields (Scanned.mergeField nestingLimit) (bs.length + 1) {} 0 bs).map (·.1)

/-- The encoded body of a token. -/
def Token.encode (t : Token) : Bytes :=
  writeInt32 1 t.start ++ writeInt32 2 t.stop ++ writeInt32 4 t.token ++
    writeInt32 5 t.keywordKind

/-- The encoded scanner output. -/
def Scanned.encode (s : Scanned) : Bytes :=
  writeInt32 1 s.version ++ (s.tokens.map fun t => writeChunk 2 t.encode).flatten

/-- A token as JSON, with its text in `sql` when an input is known. -/
def Token.toJson (sql : Option String) (t : Token) : Value :=
  .object [("start", .ofInt t.start.toInt), ("end", .ofInt t.stop.toInt),
    ("token", .ofInt t.token.toInt), ("keyword_kind", .ofInt t.keywordKind.toInt),
    ("keyword_kind_enum", .str (KeywordKind.ofInt32 t.keywordKind).name),
    ("text", .ofOption .str (sql.bind t.text))]

/-- The scanner's output as JSON, with its encoding. -/
def Scanned.toJson (sql : Option String) (s : Scanned) : Value :=
  .object [("version", .ofInt s.version.toInt), ("tokens", .arr (s.tokens.map (Token.toJson sql))),
    ("reencoded", .str (Hex.encode s.encode))]

end Scan
end PgBinding
