import PgBinding.Tree.Node
import PgBinding.Wire.Field
/-!
Reading parse tree nodes, with the merge rules of the wire format.

A field read twice merges: a scalar or string takes the later value, a list appends, a
sub-message merges field by field. A node's kind read twice merges when both are the same
modelled kind; otherwise the later kind replaces the earlier, and an unmodelled kind always
replaces. Unknown fields are skipped.

A length-delimited body is read from the whole remaining input down to a limit (the number of
bytes that must remain once it ends), not from a cut-out slice: a length inside it that reaches
past its end is only noticed when the body ends, as "delimited length exceeded". Every message
entered costs one level of a nesting budget of 100, counted before its length is read.
-/
namespace PgBinding
namespace Tree

open Wire

/-- The answer of a read that ran out of fuel, which never happens with the fuel `decode` gives
(`Node.decode_ne_outOfFuel`). -/
def outOfFuel {α : Type} : Except DecodeError α := fail "nesting too deep"

mutual
/-- Reads the fields of a message of kind `k` until `limit` bytes remain. -/
def mergeFields : Nat → Nat → Kind → List Field → Nat → Bytes → Decoded (List Field)
  | 0, _, _, _, _, _ => outOfFuel
  | fuel + 1, depth, k, fs, limit, bs =>
    if bs.length > limit then
      match readKey bs with
      | .error e => .error e
      | .ok ((n, wt), rest) =>
        match mergeField fuel depth k fs n wt rest with
        | .error e => .error e
        | .ok (fs', rest') => mergeFields fuel depth k fs' limit rest'
    else if bs.length = limit then .ok (fs, bs)
    else fail "delimited length exceeded"

/-- Reads field number `n` of a message of kind `k` into its values. -/
def mergeField : Nat → Nat → Kind → List Field → Nat → WireType → Bytes → Decoded (List Field)
  | 0, _, _, _, _, _, _ => outOfFuel
  | fuel + 1, depth, k, fs, n, wt, bs =>
    match k.fields.findIdx? (·.carries n) with
    | none => (skipField depth wt n bs).map ((fs, ·))
    | some i =>
      match k.fields[i]? with
      | none => (skipField depth wt n bs).map ((fs, ·))
      | some spec =>
        match mergeValue fuel depth spec.type (fs.getD i spec.type.default) n wt bs with
        | .error e => .error (e.push k.recordName spec.recordName)
        | .ok (v, rest) => .ok (fs.set i v, rest)

/-- Reads one occurrence of a field of type `ty` (number `n`) into its value `cur`. -/
def mergeValue : Nat → Nat → FieldType → Field → Nat → WireType → Bytes → Decoded Field
  | 0, _, _, _, _, _, _ => outOfFuel
  | fuel + 1, depth, ty, cur, n, wt, bs =>
    match ty with
    | .int32 => (readScalar wt bs).map fun (v, rest) => (.int32 (toInt32 v), rest)
    | .uint32 => (readScalar wt bs).map fun (v, rest) => (.uint32 (UInt32.ofNat v), rest)
    | .bool => (readScalar wt bs).map fun (v, rest) => (.bool (v != 0), rest)
    | .text => (readText wt bs).map fun (s, rest) => (.text s, rest)
    | .bytes => (readBytes wt bs).map fun (chunk, rest) => (.bytes (some chunk), rest)
    | .node =>
      let nd := match cur with
        | .node (some nd) => nd
        | _ => .empty
      (mergeNode fuel depth nd wt bs).map fun (nd, rest) => (.node (some nd), rest)
    | .nodes =>
      let nds := match cur with
        | .nodes nds => nds
        | _ => []
      match expect wt .lengthDelimited with
      | .error e => .error e
      | .ok () =>
        (mergeNode fuel depth .empty wt bs).map fun (nd, rest) => (.nodes (nds ++ [nd]), rest)
    | .message k =>
      let fs := match cur with
        | .message (some (.mk k' fs)) => if k' = k then fs else k.blank
        | _ => k.blank
      (mergeMessage fuel depth k fs wt bs).map fun (fs, rest) => (.message (some (.mk k fs)), rest)
    | .choice alts =>
      match alts.find? (·.1 == n) with
      | none => outOfFuel
      | some (_, _, k) =>
        let fs := match cur with
          | .choice (some (alt, .mk k' fs)) => if alt = n ∧ k' = k then fs else k.blank
          | _ => k.blank
        (mergeMessage fuel depth k fs wt bs).map fun (fs, rest) =>
          (.choice (some (n, .mk k fs)), rest)

/-- Reads a length-delimited message of kind `k` into its values: one nesting level. -/
def mergeMessage : Nat → Nat → Kind → List Field → WireType → Bytes → Decoded (List Field)
  | 0, _, _, _, _, _ => outOfFuel
  | fuel + 1, depth, k, fs, wt, bs =>
    match expect wt .lengthDelimited with
    | .error e => .error e
    | .ok () =>
      if depth = 0 then fail "recursion limit reached" else
      match enterBody bs with
      | .error e => .error e
      | .ok (limit, rest) => mergeFields fuel (depth - 1) k fs limit rest

/-- Reads a length-delimited node into `nd`: one nesting level. -/
def mergeNode : Nat → Nat → Node → WireType → Bytes → Decoded Node
  | 0, _, _, _, _ => outOfFuel
  | fuel + 1, depth, nd, wt, bs =>
    match expect wt .lengthDelimited with
    | .error e => .error e
    | .ok () =>
      if depth = 0 then fail "recursion limit reached" else
      match enterBody bs with
      | .error e => .error e
      | .ok (limit, rest) => mergeNodeFields fuel (depth - 1) nd limit rest

/-- Reads the fields of a node until `limit` bytes remain. -/
def mergeNodeFields : Nat → Nat → Node → Nat → Bytes → Decoded Node
  | 0, _, _, _, _ => outOfFuel
  | fuel + 1, depth, nd, limit, bs =>
    if bs.length > limit then
      match readKey bs with
      | .error e => .error e
      | .ok ((n, wt), rest) =>
        match mergeKind fuel depth nd n wt rest with
        | .error e => .error e
        | .ok (nd', rest') => mergeNodeFields fuel depth nd' limit rest'
    else if bs.length = limit then .ok (nd, bs)
    else fail "delimited length exceeded"

/-- Reads kind number `n` of a node: a modelled kind merges into the same kind or replaces
another; any other kind replaces. -/
def mergeKind : Nat → Nat → Node → Nat → WireType → Bytes → Decoded Node
  | 0, _, _, _, _, _ => outOfFuel
  | fuel + 1, depth, nd, n, wt, bs =>
    match Kind.ofTag? n with
    | some k =>
      let fs := match nd with
        | .typed (.mk k' fs) => if k' = k then fs else k.blank
        | _ => k.blank
      (mergeMessage fuel depth k fs wt bs).map fun (fs, rest) => (.typed (.mk k fs), rest)
    | none => (readBytes wt bs).map fun (payload, rest) => (.raw n payload, rest)
end

/-- Fuel enough for any input: along a chain of calls, every four calls read at least one byte
(`Node.decode_ne_outOfFuel`). -/
def fuelFor (bs : Bytes) : Nat := 4 * bs.length + 8

/-- Decodes a whole input as a node. -/
def Node.decode (bs : Bytes) : Except DecodeError Node :=
  (mergeNodeFields (fuelFor bs) nestingLimit .empty 0 bs).map (·.1)

/-- Decodes a whole input as a message of kind `k`. -/
def Message.decode (k : Kind) (bs : Bytes) : Except DecodeError Message :=
  (mergeFields (fuelFor bs) nestingLimit k k.blank 0 bs).map fun (fs, _) => .mk k fs

end Tree
end PgBinding
