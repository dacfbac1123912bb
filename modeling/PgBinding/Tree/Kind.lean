/-!
The node kinds of a parse tree that are read field by field, and the layout of each.

A parse tree node is one of several hundred kinds, each a field number of the node's oneof. The
expression and data-changing statement kinds below are modelled field for field; every other
kind is kept as its encoded bytes. Each kind's layout lists its fields in field-number order,
which is also the order they are written in.
-/
namespace PgBinding
namespace Tree

/-- The node kinds read field by field. -/
inductive Kind where
  | alias | rangeVar | boolExpr | nullTest | joinExpr | typeName | columnRef | paramRef
  | aExpr | typeCast | funcCall | aStar | resTarget | sortBy
  | insertStmt | deleteStmt | updateStmt | selectStmt
  | integer | float | boolean | string | bitString | list | aConst
  deriving Repr, DecidableEq, Inhabited

/-- What a field holds. -/
inductive FieldType where
  /-- A signed 32-bit integer (enumerations too), sent as a varint. -/
  | int32
  /-- An unsigned 32-bit integer, sent as a varint. -/
  | uint32
  | bool
  /-- UTF-8 text. -/
  | text
  /-- An optional sub-message that is not modelled, kept as its encoded bytes. -/
  | bytes
  /-- An optional node. -/
  | node
  /-- A list of nodes. -/
  | nodes
  /-- An optional sub-message of a modelled kind. -/
  | message (k : Kind)
  /-- A oneof over sub-messages: field number, name and kind of each alternative. -/
  | choice (alternatives : List (Nat × String × Kind))
  deriving Repr, DecidableEq

/-- One field of a layout: its number (the first alternative's for a oneof) and name. -/
structure FieldSpec where
  number : Nat
  name : String
  type : FieldType
  deriving Repr, DecidableEq

namespace Kind

/-- Every modelled kind, in field-number order. -/
def all : List Kind :=
  [.alias, .rangeVar, .boolExpr, .nullTest, .joinExpr, .typeName, .columnRef, .paramRef,
   .aExpr, .typeCast, .funcCall, .aStar, .resTarget, .sortBy,
   .insertStmt, .deleteStmt, .updateStmt, .selectStmt,
   .integer, .float, .boolean, .string, .bitString, .list, .aConst]

/-- The field number of the kind in the node oneof. -/
def tag : Kind → Nat
  | .alias => 1 | .rangeVar => 2 | .boolExpr => 19 | .nullTest => 50 | .joinExpr => 61
  | .typeName => 65 | .columnRef => 66 | .paramRef => 67 | .aExpr => 68 | .typeCast => 69
  | .funcCall => 72 | .aStar => 73 | .resTarget => 77 | .sortBy => 79
  | .insertStmt => 132 | .deleteStmt => 133 | .updateStmt => 134 | .selectStmt => 136
  | .integer => 260 | .float => 261 | .boolean => 262 | .string => 263 | .bitString => 264
  | .list => 265 | .aConst => 268

/-- The message name in the grammar's protocol description. -/
def name : Kind → String
  | .alias => "Alias" | .rangeVar => "RangeVar" | .boolExpr => "BoolExpr"
  | .nullTest => "NullTest" | .joinExpr => "JoinExpr" | .typeName => "TypeName"
  | .columnRef => "ColumnRef" | .paramRef => "ParamRef" | .aExpr => "A_Expr"
  | .typeCast => "TypeCast" | .funcCall => "FuncCall" | .aStar => "A_Star"
  | .resTarget => "ResTarget" | .sortBy => "SortBy" | .insertStmt => "InsertStmt"
  | .deleteStmt => "DeleteStmt" | .updateStmt => "UpdateStmt" | .selectStmt => "SelectStmt"
  | .integer => "Integer" | .float => "Float" | .boolean => "Boolean" | .string => "String"
  | .bitString => "BitString" | .list => "List" | .aConst => "A_Const"

/-- The name decoding errors give the message (the record's name in the binding). -/
def recordName : Kind → String
  | .aExpr => "AExpr" | .aStar => "AStar" | .string => "StringValue" | .aConst => "AConst"
  | k => k.name

/-- The modelled kind with a given field number. -/
def ofTag? (tag : Nat) : Option Kind := all.find? (·.tag == tag)

/-- The fields of each kind, in field-number order. -/
def fields : Kind → List FieldSpec
  | .alias => [⟨1, "aliasname", .text⟩, ⟨2, "colnames", .nodes⟩]
  | .rangeVar =>
    [⟨1, "catalogname", .text⟩, ⟨2, "schemaname", .text⟩, ⟨3, "relname", .text⟩,
     ⟨4, "inh", .bool⟩, ⟨5, "relpersistence", .text⟩, ⟨6, "alias", .message .alias⟩,
     ⟨7, "location", .int32⟩]
  | .boolExpr =>
    [⟨1, "xpr", .node⟩, ⟨2, "boolop", .int32⟩, ⟨3, "args", .nodes⟩, ⟨4, "location", .int32⟩]
  | .nullTest =>
    [⟨1, "xpr", .node⟩, ⟨2, "arg", .node⟩, ⟨3, "nulltesttype", .int32⟩, ⟨4, "argisrow", .bool⟩,
     ⟨5, "location", .int32⟩]
  | .joinExpr =>
    [⟨1, "jointype", .int32⟩, ⟨2, "is_natural", .bool⟩, ⟨3, "larg", .node⟩, ⟨4, "rarg", .node⟩,
     ⟨5, "using_clause", .nodes⟩, ⟨6, "join_using_alias", .message .alias⟩, ⟨7, "quals", .node⟩,
     ⟨8, "alias", .message .alias⟩, ⟨9, "rtindex", .int32⟩]
  | .typeName =>
    [⟨1, "names", .nodes⟩, ⟨2, "type_oid", .uint32⟩, ⟨3, "setof", .bool⟩, ⟨4, "pct_type", .bool⟩,
     ⟨5, "typmods", .nodes⟩, ⟨6, "typemod", .int32⟩, ⟨7, "array_bounds", .nodes⟩,
     ⟨8, "location", .int32⟩]
  | .columnRef => [⟨1, "fields", .nodes⟩, ⟨2, "location", .int32⟩]
  | .paramRef => [⟨1, "number", .int32⟩, ⟨2, "location", .int32⟩]
  | .aExpr =>
    [⟨1, "kind", .int32⟩, ⟨2, "name", .nodes⟩, ⟨3, "lexpr", .node⟩, ⟨4, "rexpr", .node⟩,
     ⟨5, "location", .int32⟩]
  | .typeCast => [⟨1, "arg", .node⟩, ⟨2, "type_name", .message .typeName⟩, ⟨3, "location", .int32⟩]
  | .funcCall =>
    [⟨1, "funcname", .nodes⟩, ⟨2, "args", .nodes⟩, ⟨3, "agg_order", .nodes⟩,
     ⟨4, "agg_filter", .node⟩, ⟨5, "over", .bytes⟩, ⟨6, "agg_within_group", .bool⟩,
     ⟨7, "agg_star", .bool⟩, ⟨8, "agg_distinct", .bool⟩, ⟨9, "func_variadic", .bool⟩,
     ⟨10, "funcformat", .int32⟩, ⟨11, "location", .int32⟩]
  | .aStar => []
  | .resTarget =>
    [⟨1, "name", .text⟩, ⟨2, "indirection", .nodes⟩, ⟨3, "val", .node⟩, ⟨4, "location", .int32⟩]
  | .sortBy =>
    [⟨1, "node", .node⟩, ⟨2, "sortby_dir", .int32⟩, ⟨3, "sortby_nulls", .int32⟩,
     ⟨4, "use_op", .nodes⟩, ⟨5, "location", .int32⟩]
  | .insertStmt =>
    [⟨1, "relation", .message .rangeVar⟩, ⟨2, "cols", .nodes⟩, ⟨3, "select_stmt", .node⟩,
     ⟨4, "on_conflict_clause", .bytes⟩, ⟨5, "returning_list", .nodes⟩,
     ⟨6, "with_clause", .bytes⟩, ⟨7, "override", .int32⟩]
  | .deleteStmt =>
    [⟨1, "relation", .message .rangeVar⟩, ⟨2, "using_clause", .nodes⟩,
     ⟨3, "where_clause", .node⟩, ⟨4, "returning_list", .nodes⟩, ⟨5, "with_clause", .bytes⟩]
  | .updateStmt =>
    [⟨1, "relation", .message .rangeVar⟩, ⟨2, "target_list", .nodes⟩,
     ⟨3, "where_clause", .node⟩, ⟨4, "from_clause", .nodes⟩, ⟨5, "returning_list", .nodes⟩,
     ⟨6, "with_clause", .bytes⟩]
  | .selectStmt =>
    [⟨1, "distinct_clause", .nodes⟩, ⟨2, "into_clause", .bytes⟩, ⟨3, "target_list", .nodes⟩,
     ⟨4, "from_clause", .nodes⟩, ⟨5, "where_clause", .node⟩, ⟨6, "group_clause", .nodes⟩,
     ⟨7, "group_distinct", .bool⟩, ⟨8, "having_clause", .node⟩, ⟨9, "window_clause", .nodes⟩,
     ⟨10, "values_lists", .nodes⟩, ⟨11, "sort_clause", .nodes⟩, ⟨12, "limit_offset", .node⟩,
     ⟨13, "limit_count", .node⟩, ⟨14, "limit_option", .int32⟩, ⟨15, "locking_clause", .nodes⟩,
     ⟨16, "with_clause", .bytes⟩, ⟨17, "op", .int32⟩, ⟨18, "all", .bool⟩,
     ⟨19, "larg", .message .selectStmt⟩, ⟨20, "rarg", .message .selectStmt⟩]
  | .integer => [⟨1, "ival", .int32⟩]
  | .float => [⟨1, "fval", .text⟩]
  | .boolean => [⟨1, "boolval", .bool⟩]
  | .string => [⟨1, "sval", .text⟩]
  | .bitString => [⟨1, "bsval", .text⟩]
  | .list => [⟨1, "items", .nodes⟩]
  | .aConst =>
    [⟨1, "val", .choice [(1, "ival", .integer), (2, "fval", .float), (3, "boolval", .boolean),
       (4, "sval", .string), (5, "bsval", .bitString)]⟩,
     ⟨10, "isnull", .bool⟩, ⟨11, "location", .int32⟩]

end Kind

/-- Whether a field of this layout carries field number `n`. -/
def FieldSpec.carries (f : FieldSpec) (n : Nat) : Bool :=
  match f.type with
  | .choice alts => alts.any (·.1 == n)
  | _ => f.number == n

/-- The name decoding errors give a field (`override` is a reserved word of the binding's
language and carries its raw-identifier mark there). -/
def FieldSpec.recordName (f : FieldSpec) : String :=
  if f.name == "override" then "r#override" else f.name

end Tree
end PgBinding
