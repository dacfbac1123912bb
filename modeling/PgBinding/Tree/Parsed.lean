import PgBinding.Tree.Decode
import PgBinding.Tree.Encode
import PgBinding.Tree.View
/-!
The parse tree of a whole input: the grammar's version and one raw statement per statement of
the input, each with its node and the bytes of the input it covers.

An empty payload is the empty tree: the engine sends nothing for an input with no statements.
-/
namespace PgBinding
namespace Tree

open Wire Json

/-- One statement of the input. -/
structure Statement where
  /-- The statement's node, when one was sent (it may still be empty). -/
  stmt : Option Node := none
  /-- Byte offset of the statement in the input. -/
  location : Int32 := 0
  /-- Length in bytes; 0 means up to the end of the input. -/
  length : Int32 := 0

/-- A parse tree: the grammar's version number and the statements. -/
structure ParseTree where
  version : Int32 := 0
  stmts : List Statement := []

/-- Reads one field of a statement. -/
def Statement.mergeField (fuel depth : Nat) (s : Statement) (n : Nat) (wt : WireType)
    (bs : Bytes) : Except DecodeError (Statement × Bytes) :=
  match n with
  | 1 => inField "RawStmt" "stmt" <|
    (mergeNode fuel depth (s.stmt.getD .empty) wt bs).map fun (nd, rest) =>
      ({ s with stmt := some nd }, rest)
  | 2 => inField "RawStmt" "stmt_location" <|
    (readInt32 wt bs).map fun (v, rest) => ({ s with location := v }, rest)
  | 3 => inField "RawStmt" "stmt_len" <|
    (readInt32 wt bs).map fun (v, rest) => ({ s with length := v }, rest)
  | _ => (skipField depth wt n bs).map ((s, ·))

/-- Reads one field of a parse tree. -/
def ParseTree.mergeField (fuel depth : Nat) (t : ParseTree) (n : Nat) (wt : WireType)
    (bs : Bytes) : Except DecodeError (ParseTree × Bytes) :=
  match n with
  | 1 => inField "ParseResult" "version" <|
    (readInt32 wt bs).map fun (v, rest) => ({ t with version := v }, rest)
  | 2 => inField "ParseResult" "stmts" <|
    (readNested depth {} (Statement.mergeField fuel) wt bs).map fun (s, rest) =>
      ({ t with stmts := t.stmts ++ [s] }, rest)
  | _ => (skipField depth wt n bs).map ((t, ·))

/-- Decodes a parse tree; the empty payload is the empty tree. -/
def ParseTree.decode (bs : Bytes) : Except DecodeError ParseTree :=
  if bs.isEmpty then .ok {} else
  (readFields (ParseTree.mergeField (fuelFor bs) nestingLimit) (bs.length + 1) {} 0 bs).map (·.1)

/-- The encoded length of a statement: what its length prefix says. -/
def Statement.encodedLen (s : Statement) : Nat :=
  (match s.stmt with
    | some nd => chunkLen 1 nd.encodedLen
    | none => 0) +
  scalarLen 2 (ofInt32 s.location) + scalarLen 3 (ofInt32 s.length)

/-- The encoded body of a statement. -/
def Statement.encode (s : Statement) : Bytes :=
  (match s.stmt with
    | some nd => writeFramed 1 nd.encodedLen nd.encode
    | none => []) ++
  writeInt32 2 s.location ++ writeInt32 3 s.length

/-- The encoded parse tree. -/
def ParseTree.encode (t : ParseTree) : Bytes :=
  writeInt32 1 t.version ++ (t.stmts.map fun s => writeFramed 2 s.encodedLen s.encode).flatten

/-- The statement's node kind, when it has one. -/
def Statement.nodeTag (s : Statement) : Option Nat := s.stmt.bind Node.tag

/-- A statement as JSON: its node, position and node kind. -/
def Statement.toJson (s : Statement) : Value :=
  .object [("stmt", .ofOption Node.toJson s.stmt), ("stmt_location", .ofInt s.location.toInt),
    ("stmt_len", .ofInt s.length.toInt), ("node_tag", .ofOption .ofNat s.nodeTag),
    ("node_name", .ofOption .str (s.stmt.bind Node.name))]

/-- A parse tree as JSON, with its encoding. -/
def ParseTree.toJson (t : ParseTree) : Value :=
  .object [("version", .ofInt t.version.toInt), ("stmts", .arr (t.stmts.map Statement.toJson)),
    ("reencoded", .str (Hex.encode t.encode))]

end Tree
end PgBinding
