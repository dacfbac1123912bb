import PgBinding.Tree.Kind
import PgBinding.Text.Utf8
/-!
Parse tree nodes as values.

A node is empty, a message of a modelled kind, or a kind that is not modelled kept as its field
number and encoded bytes. A message holds one field value per entry of its kind's layout, in
the same order, so reading and writing walk the layout and the values side by side.
-/
namespace PgBinding
namespace Tree

mutual
/-- One parse tree node: the oneof over every node kind. -/
inductive Node where
  /-- A node with no kind set. -/
  | empty
  /-- A node of a modelled kind. -/
  | typed (m : Message)
  /-- A node of any other kind: its field number and its encoded message. -/
  | raw (tag : Nat) (payload : Bytes)

/-- A message of a modelled kind: one value per field of the kind's layout. -/
inductive Message where
  | mk (kind : Kind) (fields : List Field)

/-- The value of one field. -/
inductive Field where
  | int32 (v : Int32)
  | uint32 (v : UInt32)
  | bool (v : Bool)
  | text (v : String)
  /-- An unmodelled sub-message, as its encoded bytes. -/
  | bytes (v : Option Bytes)
  | node (v : Option Node)
  | nodes (v : List Node)
  | message (v : Option Message)
  /-- The alternative set in a oneof: its field number and message. -/
  | choice (v : Option (Nat × Message))
end

instance : Inhabited Node := ⟨.empty⟩

/-- The value a field has when nothing was read for it. -/
def FieldType.default : FieldType → Field
  | .int32 => .int32 0
  | .uint32 => .uint32 0
  | .bool => .bool false
  | .text => .text ""
  | .bytes => .bytes none
  | .node => .node none
  | .nodes => .nodes []
  | .message _ => .message none
  | .choice _ => .choice none

/-- The field values of a message of kind `k` with nothing set. -/
def Kind.blank (k : Kind) : List Field := k.fields.map (·.type.default)

/-- A message of kind `k` with nothing set. -/
def Message.blank (k : Kind) : Message := .mk k k.blank

/-- The kind of a message. -/
def Message.kind : Message → Kind
  | .mk k _ => k

/-- The field values of a message. -/
def Message.fields : Message → List Field
  | .mk _ fs => fs

/-- The field number of a node's kind; none for an empty node. -/
def Node.tag : Node → Option Nat
  | .empty => none
  | .typed m => some m.kind.tag
  | .raw tag _ => some tag

/-- The message name of a node's kind, for modelled kinds only. -/
def Node.name : Node → Option String
  | .typed m => some m.kind.name
  | _ => none

/-- The node holding a blank message of kind `k`. -/
def Node.ofKind (k : Kind) : Node := .typed (.blank k)

/-- Whether a node has no kind set, that is, whether it is the default node. -/
def Node.isEmpty : Node → Bool
  | .empty => true
  | _ => false

/-- The node with its kind unset, whatever kind it had. -/
def Node.clear (_ : Node) : Node := .empty

@[simp] theorem Node.isEmpty_iff {n : Node} : n.isEmpty = true ↔ n = .empty := by
  cases n <;> simp [Node.isEmpty]

@[simp] theorem Node.clear_eq (n : Node) : n.clear = .empty := rfl

end Tree
end PgBinding
