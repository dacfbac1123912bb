import PgBinding.Tree.Node
import PgBinding.Wire.Basic
/-!
Writing parse tree nodes.

Fields are written in layout order. A scalar is written only when it differs from its default;
an optional value whenever it is present, an empty byte string or message included; every
member of a list in turn. A node writes its one kind as a length-delimited field, and an empty
node writes nothing.

The length prefix of a node or of a message is its encoded length computed beforehand, field by
field, without writing it; a string or a byte string is prefixed with its own length.
-/
namespace PgBinding
namespace Tree

open Wire

mutual
/-- The encoded length of a node: what its length prefix says. -/
def Node.encodedLen : Node → Nat
  | .empty => 0
  | .typed (.mk k fs) => chunkLen k.tag (fieldsLen k.fields fs)
  | .raw tag payload => chunkLen tag payload.length

/-- The encoded length of the fields of a message. -/
def fieldsLen : List FieldSpec → List Field → Nat
  | spec :: specs, f :: fs => Field.encodedLen spec.number f + fieldsLen specs fs
  | _, _ => 0

/-- The encoded length of one field value under field number `n`. -/
def Field.encodedLen (n : Nat) : Field → Nat
  | .int32 v => scalarLen n (ofInt32 v)
  | .uint32 v => scalarLen n v.toNat
  | .bool v => scalarLen n (if v then 1 else 0)
  | .text v => if v.isEmpty then 0 else chunkLen n (Utf8.encode v).length
  | .bytes none => 0
  | .bytes (some b) => chunkLen n b.length
  | .node none => 0
  | .node (some nd) => chunkLen n nd.encodedLen
  | .nodes nds => nodesLen n nds
  | .message none => 0
  | .message (some (.mk k fs)) => chunkLen n (fieldsLen k.fields fs)
  | .choice none => 0
  | .choice (some (alt, .mk k fs)) => chunkLen alt (fieldsLen k.fields fs)

/-- The encoded length of a list of nodes, each as its own field `n`. -/
def nodesLen (n : Nat) : List Node → Nat
  | [] => 0
  | nd :: rest => chunkLen n nd.encodedLen + nodesLen n rest
end

mutual
/-- The encoded body of a node: its kind's field, if a kind is set. -/
def Node.encode : Node → Bytes
  | .empty => []
  | .typed (.mk k fs) => writeFramed k.tag (fieldsLen k.fields fs) (encodeFields k.fields fs)
  | .raw tag payload => writeChunk tag payload

/-- The fields of a message, walking its layout beside its values. -/
def encodeFields : List FieldSpec → List Field → Bytes
  | spec :: specs, f :: fs => Field.encode spec.number f ++ encodeFields specs fs
  | _, _ => []

/-- One field value under field number `n`. -/
def Field.encode (n : Nat) : Field → Bytes
  | .int32 v => writeInt32 n v
  | .uint32 v => writeScalar n v.toNat
  | .bool v => writeScalar n (if v then 1 else 0)
  | .text v => if v.isEmpty then [] else writeChunk n (Utf8.encode v)
  | .bytes none => []
  | .bytes (some b) => writeChunk n b
  | .node none => []
  | .node (some nd) => writeFramed n nd.encodedLen nd.encode
  | .nodes nds => encodeNodes n nds
  | .message none => []
  | .message (some (.mk k fs)) => writeFramed n (fieldsLen k.fields fs) (encodeFields k.fields fs)
  | .choice none => []
  | .choice (some (alt, .mk k fs)) =>
    writeFramed alt (fieldsLen k.fields fs) (encodeFields k.fields fs)

/-- A list of nodes, each as its own field `n`. -/
def encodeNodes (n : Nat) : List Node → Bytes
  | [] => []
  | nd :: rest => writeFramed n nd.encodedLen nd.encode ++ encodeNodes n rest
end

/-- The encoded body of a message. -/
def Message.encode : Message → Bytes
  | .mk k fs => encodeFields k.fields fs

end Tree
end PgBinding
