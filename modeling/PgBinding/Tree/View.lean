import PgBinding.Tree.Node
import PgBinding.Json.Value
import PgBinding.Text.Hex
/-!
Parse tree nodes as JSON.

A node shows its kind's field number, its message name (none for an unmodelled kind) and its
fields by name; an unmodelled kind shows its encoded message as hex. An empty node shows a null
kind. A oneof shows the alternative that is set, by name, over that message's fields.
-/
namespace PgBinding
namespace Tree

open Json

/-- The name of alternative `alt` of a oneof field. -/
def FieldType.alternativeName (ty : FieldType) (alt : Nat) : String :=
  match ty with
  | .choice alts => ((alts.find? (·.1 == alt)).map (·.2.1)).getD ""
  | _ => ""

mutual
/-- A node as JSON. -/
def Node.toJson : Node → Value
  | .empty => .object [("tag", .null)]
  | .typed (.mk k fs) =>
    .object [("tag", .ofNat k.tag), ("name", .str k.name), ("fields", .object (fieldsJson k.fields fs))]
  | .raw tag payload =>
    .object [("tag", .ofNat tag), ("name", .null),
      ("fields", .object [("payload", .str (Hex.encode payload))])]

/-- The fields of a message as JSON members, walking its layout beside its values. -/
def fieldsJson : List FieldSpec → List Field → List (String × Value)
  | spec :: specs, f :: fs => (spec.name, Field.toJson spec.type f) :: fieldsJson specs fs
  | _, _ => []

/-- One field value as JSON. -/
def Field.toJson (ty : FieldType) : Field → Value
  | .int32 v => .ofInt v.toInt
  | .uint32 v => .ofNat v.toNat
  | .bool v => .bool v
  | .text v => .str v
  | .bytes none => .null
  | .bytes (some b) => .str (Hex.encode b)
  | .node none => .null
  | .node (some nd) => nd.toJson
  | .nodes nds => .arr (nodesJson nds)
  | .message none => .null
  | .message (some (.mk k fs)) => .object (fieldsJson k.fields fs)
  | .choice none => .null
  | .choice (some (alt, .mk k fs)) =>
    .object [(ty.alternativeName alt, .object (fieldsJson k.fields fs))]

/-- A list of nodes as JSON. -/
def nodesJson : List Node → List Value
  | [] => []
  | nd :: rest => nd.toJson :: nodesJson rest
end

end Tree
end PgBinding
