import Mathlib
import PgBinding.Proofs.DecoderRounds
import PgBinding.Tree.Encode
import PgBinding.Proofs.WireCodec
/-!
# Parse tree nodes read back from their encoding

A node value of the binding is well formed (`Node.wellFormed`): every message holds one value of
the right type per field of its kind's layout, a sub-message is of the kind its field names, a
oneof alternative is one its field offers, and an unmodelled kind's tag is a key the format can
carry and no modelled kind's. `Node.nesting` counts the messages the decoder enters to read a
node as a field: its own wrapper, its kind's message, and what lies within.

Main statements:
* `Node.encodedLen_eq`: the encoded length computed for a length prefix is the number of octets
  the node's encoding has, for every node.
* `Node.reads_encode`: a well-formed node whose nesting fits the decoder's budget is read back
  from its encoding followed by any input, given fuel four times its length.

The reading lemmas follow the mutual recursion of the encoder: one lemma for a node, for the
fields of a message, for one field, and for a list of nodes.
-/
namespace PgBinding
namespace Tree

open Wire

/-! ## Well-formed nodes and their nesting -/

/-- The field numbers a layout entry is read under: a oneof's alternatives, else its own. -/
def FieldSpec.numbers (f : FieldSpec) : List Nat :=
  match f.type with
  | .choice alts => alts.map (·.1)
  | _ => [f.number]

mutual
/-- Whether a node is a value of the binding's node type. -/
def Node.wellFormed : Node → Bool
  | .empty => true
  | .typed (.mk k fs) => fieldsWellFormed k.fields fs
  | .raw tag _ => 0 < tag && tag < 2 ^ 29 && Kind.all.all (·.tag != tag)

/-- Whether a message's values follow a layout: one value a field, each of the field's type. -/
def fieldsWellFormed : List FieldSpec → List Field → Bool
  | [], [] => true
  | spec :: specs, f :: fs => Field.fits spec.type f && fieldsWellFormed specs fs
  | _, _ => false

/-- Whether a field value is of a field type, with everything within it well formed. -/
def Field.fits : FieldType → Field → Bool
  | .int32, .int32 _ => true
  | .uint32, .uint32 _ => true
  | .bool, .bool _ => true
  | .text, .text _ => true
  | .bytes, .bytes _ => true
  | .node, .node none => true
  | .node, .node (some nd) => nd.wellFormed
  | .nodes, .nodes nds => nodesWellFormed nds
  | .message _, .message none => true
  | .message k, .message (some (.mk k' fs)) => k' == k && fieldsWellFormed k'.fields fs
  | .choice _, .choice none => true
  | .choice alts, .choice (some (alt, .mk k fs)) =>
    (alts.find? (·.1 == alt)).map (·.2.2) == some k && fieldsWellFormed k.fields fs
  | _, _ => false

/-- Whether every node of a list is well formed. -/
def nodesWellFormed : List Node → Bool
  | [] => true
  | nd :: nds => nd.wellFormed && nodesWellFormed nds
end

mutual
/-- The messages entered to read a node as a field: its wrapper, then its kind's message. -/
def Node.nesting : Node → Nat
  | .empty => 1
  | .typed (.mk _ fs) => fieldsNesting fs + 2
  | .raw _ _ => 1

/-- The deepest nesting among the fields of a message. -/
def fieldsNesting : List Field → Nat
  | [] => 0
  | f :: fs => max f.nesting (fieldsNesting fs)

/-- The messages entered to read a field value. -/
def Field.nesting : Field → Nat
  | .node (some nd) => nd.nesting
  | .nodes nds => nodesNesting nds
  | .message (some (.mk _ fs)) => fieldsNesting fs + 1
  | .choice (some (_, .mk _ fs)) => fieldsNesting fs + 1
  | _ => 0

/-- The deepest nesting among a list of nodes. -/
def nodesNesting : List Node → Nat
  | [] => 0
  | nd :: nds => max nd.nesting (nodesNesting nds)
end

/-! ## Facts of the layouts -/

/-- Every number a field is written under finds that field first. -/
theorem Kind.layouts_unambiguous :
    ∀ k ∈ Kind.all, ∀ j (h : j < k.fields.length), ∀ n ∈ (k.fields[j]).numbers,
      k.fields.findIdx? (·.carries n) = some j := by
  decide

theorem Kind.numbers_in_range :
    ∀ k ∈ Kind.all, ∀ spec ∈ k.fields, ∀ n ∈ spec.numbers, 0 < n ∧ n < 2 ^ 29 := by
  decide

theorem Kind.tags_in_range : ∀ k ∈ Kind.all, 0 < k.tag ∧ k.tag < 2 ^ 29 := by
  decide

theorem Kind.mem_all (k : Kind) : k ∈ Kind.all := by
  cases k <;> decide

theorem Kind.ofTag?_tag (k : Kind) : Kind.ofTag? k.tag = some k := by
  cases k <;> rfl

theorem Kind.ofTag?_eq_none (tag : Nat) (h : Kind.all.all (·.tag != tag) = true) :
    Kind.ofTag? tag = none := by
  rw [Kind.ofTag?, List.find?_eq_none]
  intro k hk
  simpa using List.all_eq_true.1 h k hk

theorem FieldSpec.number_mem_numbers (spec : FieldSpec)
    (h : ∀ alts, spec.type ≠ .choice alts) : spec.number ∈ spec.numbers := by
  unfold FieldSpec.numbers
  split
  · exact absurd ‹_› (h _)
  · exact List.mem_singleton_self _

/-! ## Encoded lengths -/

mutual
/-- The length a node's prefix says is the length of its encoding. -/
theorem Node.encodedLen_eq : (nd : Node) → nd.encodedLen = nd.encode.length
  | .empty => rfl
  | .typed (.mk k fs) => by
    rw [Node.encodedLen, Node.encode, length_writeFramed, ← fieldsLen_eq k.fields fs, chunkLen]
  | .raw tag payload => by
    rw [Node.encodedLen, Node.encode, length_writeChunk]

theorem fieldsLen_eq : (specs : List FieldSpec) → (fs : List Field) →
    fieldsLen specs fs = (encodeFields specs fs).length
  | [], _ => by simp [fieldsLen, encodeFields]
  | _ :: _, [] => by simp [fieldsLen, encodeFields]
  | spec :: specs, f :: fs => by
    rw [fieldsLen, encodeFields, List.length_append, Field.encodedLen_eq spec.number f,
      fieldsLen_eq specs fs]

theorem Field.encodedLen_eq (n : Nat) : (f : Field) → f.encodedLen n = (f.encode n).length
  | .int32 v => (length_writeScalar n _).symm
  | .uint32 v => (length_writeScalar n _).symm
  | .bool v => (length_writeScalar n _).symm
  | .text v => by
    by_cases h : v.isEmpty <;> simp [Field.encodedLen, Field.encode, h, length_writeChunk]
  | .bytes none => rfl
  | .bytes (some b) => (length_writeChunk n b).symm
  | .node none => rfl
  | .node (some nd) => by
    rw [Field.encodedLen, Field.encode, length_writeFramed, ← Node.encodedLen_eq nd, chunkLen]
  | .nodes nds => nodesLen_eq n nds
  | .message none => rfl
  | .message (some (.mk k fs)) => by
    rw [Field.encodedLen, Field.encode, length_writeFramed, ← fieldsLen_eq k.fields fs, chunkLen]
  | .choice none => rfl
  | .choice (some (alt, .mk k fs)) => by
    rw [Field.encodedLen, Field.encode, length_writeFramed, ← fieldsLen_eq k.fields fs, chunkLen]

theorem nodesLen_eq (n : Nat) : (nds : List Node) → nodesLen n nds = (encodeNodes n nds).length
  | [] => rfl
  | nd :: nds => by
    rw [nodesLen, encodeNodes, List.length_append, length_writeFramed, ← Node.encodedLen_eq nd,
      nodesLen_eq n nds, chunkLen]
end

/-! ## Reading the fields of a message -/

/-- Reading the field entries `X` of a message of kind `k` in front of any tail, down to a limit
within the tail, takes the message's values from `cur` to `cur'`; four units of fuel an octet
suffice, and as many are left for the tail. -/
def ReadsFields (depth : Nat) (k : Kind) (X : Bytes) (cur cur' : List Field) : Prop :=
  ∀ fuel limit tail, limit ≤ tail.length → 4 * (X.length + (tail.length - limit)) < fuel →
    ∃ fuel', 4 * (tail.length - limit) < fuel' ∧
      mergeFields fuel depth k cur limit (X ++ tail) = mergeFields fuel' depth k cur' limit tail

section Fields

variable {depth : Nat} {k : Kind}

theorem ReadsFields.nil (cur : List Field) : ReadsFields depth k [] cur cur :=
  fun fuel _ _ _ hfuel => ⟨fuel, by simpa using hfuel, rfl⟩

theorem ReadsFields.append {X Y : Bytes} {c₁ c₂ c₃ : List Field}
    (h₁ : ReadsFields depth k X c₁ c₂) (h₂ : ReadsFields depth k Y c₂ c₃) :
    ReadsFields depth k (X ++ Y) c₁ c₃ := by
  intro fuel limit tail hlim hfuel
  have hlen : (X ++ Y).length = X.length + Y.length := List.length_append
  obtain ⟨f₁, hf₁, e₁⟩ := h₁ fuel limit (Y ++ tail) (by simp; omega) (by simp; omega)
  obtain ⟨f₂, hf₂, e₂⟩ := h₂ f₁ limit tail hlim (by simp at hf₁; omega)
  exact ⟨f₂, hf₂, by rw [List.append_assoc, e₁, e₂]⟩

/-- One entry: a key read as `(n, wt)`, then a value that `mergeField` reads. -/
theorem ReadsFields.entry {K V : Bytes} {n : Nat} {wt : WireType} {cur cur' : List Field}
    (hK : K ≠ []) (hkey : ∀ rest, readKey (K ++ rest) = .ok ((n, wt), rest))
    (hfield : ∀ fuel tail, 4 * V.length + 2 ≤ fuel →
      mergeField fuel depth k cur n wt (V ++ tail) = .ok (cur', tail)) :
    ReadsFields depth k (K ++ V) cur cur' := by
  intro fuel limit tail hlim hfuel
  have hK0 : 0 < K.length := List.length_pos_iff.2 hK
  simp only [List.length_append] at hfuel
  obtain ⟨f, rfl⟩ : ∃ f, fuel = f + 1 := ⟨fuel - 1, by omega⟩
  have hlong : limit < (K ++ (V ++ tail)).length := by simp; omega
  refine ⟨f, by omega, ?_⟩
  rw [List.append_assoc]
  exact mergeFields_of_read hlong (hkey _) (hfield f tail (by omega))

theorem getD_middle (pre rest : List Field) (x d : Field) :
    (pre ++ x :: rest).getD pre.length d = x := by
  simp

theorem set_middle (pre rest : List Field) (x y : Field) :
    (pre ++ x :: rest).set pre.length y = pre ++ y :: rest := by
  simp

/-- One field entry of the layout's field at position `pre.length`: its key, then a value that
`mergeValue` reads into `f` from the value `x` held so far. -/
theorem ReadsFields.field {pre rest : List Field} {spec : FieldSpec}
    (hspec : k.fields[pre.length]? = some spec) {n : Nat} (hn : n ∈ spec.numbers)
    {wt : WireType} {V : Bytes} {x f : Field}
    (hval : ∀ fuel tail, 4 * V.length ≤ fuel →
      mergeValue (fuel + 1) depth spec.type x n wt (V ++ tail) = .ok (f, tail)) :
    ReadsFields depth k (writeKey n wt ++ V) (pre ++ x :: rest) (pre ++ f :: rest) := by
  obtain ⟨hj, hget⟩ := List.getElem?_eq_some_iff.1 hspec
  have hmem : spec ∈ k.fields := hget ▸ List.getElem_mem hj
  have hrange := Kind.numbers_in_range k (Kind.mem_all k) spec hmem n hn
  have hidx := Kind.layouts_unambiguous k (Kind.mem_all k) pre.length hj n (hget ▸ hn)
  refine ReadsFields.entry (by simp [writeKey, ← List.length_pos_iff, varintLen_pos])
    (fun rest => readKey_writeKey n wt rest hrange.1 hrange.2) ?_
  intro fuel tail hfuel
  obtain ⟨g, rfl⟩ : ∃ g, fuel = g + 1 + 1 := ⟨fuel - 2, by omega⟩
  rw [mergeField_eq hidx hspec (by rw [getD_middle]; exact hval g tail (by omega)), set_middle]

end Fields

/-! ## Reading a node -/

/-- `mergeNodeFields` reads the body `X` in front of any tail into `nd`, from an empty node, with
four units of fuel an octet. -/
def ReadsNode (depth : Nat) (X : Bytes) (nd : Node) : Prop :=
  ∀ fuel tail, 4 * X.length < fuel →
    mergeNodeFields fuel depth .empty tail.length (X ++ tail) = .ok (nd, tail)

/-- `mergeNodeFields` reads the body `X` in front of any tail onto the node `cur` read before,
giving `nd`, with four units of fuel an octet. -/
def ReadsNodeOnto (depth : Nat) (X : Bytes) (cur nd : Node) : Prop :=
  ∀ fuel tail, 4 * X.length < fuel →
    mergeNodeFields fuel depth cur tail.length (X ++ tail) = .ok (nd, tail)

/-- A node framed by its length is read one level down onto `cur`, whatever follows. -/
theorem mergeNode_framed_onto {depth : Nat} {X : Bytes} {cur nd : Node}
    (hread : ReadsNodeOnto (depth - 1) X cur nd) (hd : depth ≠ 0) (hX : X.length < 2 ^ 64)
    (fuel : Nat) (hfuel : 4 * (varintLen X.length + X.length) ≤ fuel) (tail : Bytes) :
    mergeNode fuel depth cur .lengthDelimited (writeVarint X.length ++ (X ++ tail)) =
      .ok (nd, tail) := by
  have hv := varintLen_pos X.length
  obtain ⟨f, rfl⟩ : ∃ f, fuel = f + 1 := ⟨fuel - 1, by omega⟩
  rw [mergeNode_of_body hd (enterBody_append X tail hX)]
  exact hread f tail (by omega)

/-- A node framed by its length is read one level down, whatever follows. -/
theorem mergeNode_framed {depth : Nat} {X : Bytes} {nd : Node} (hread : ReadsNode (depth - 1) X nd)
    (hd : depth ≠ 0) (hX : X.length < 2 ^ 64) (fuel : Nat)
    (hfuel : 4 * (varintLen X.length + X.length) ≤ fuel) (tail : Bytes) :
    mergeNode fuel depth .empty .lengthDelimited (writeVarint X.length ++ (X ++ tail)) =
      .ok (nd, tail) :=
  @mergeNode_framed_onto depth X .empty nd hread hd hX fuel hfuel tail

/-- A message framed by its length is read one level down onto the values `cur`, whatever
follows. -/
theorem mergeMessage_framed_onto {depth : Nat} {k : Kind} {X : Bytes} {cur fs : List Field}
    (hread : ReadsFields (depth - 1) k X cur fs) (hd : depth ≠ 0) (hX : X.length < 2 ^ 64)
    (fuel : Nat) (hfuel : 4 * (varintLen X.length + X.length) ≤ fuel) (tail : Bytes) :
    mergeMessage fuel depth k cur .lengthDelimited (writeVarint X.length ++ (X ++ tail)) =
      .ok (fs, tail) := by
  have hv := varintLen_pos X.length
  obtain ⟨f, rfl⟩ : ∃ f, fuel = f + 1 := ⟨fuel - 1, by omega⟩
  rw [mergeMessage_of_body hd (enterBody_append X tail hX)]
  obtain ⟨g, hg, e⟩ := hread f tail.length tail le_rfl (by omega)
  obtain ⟨g', rfl⟩ : ∃ g', g = g' + 1 := ⟨g - 1, by omega⟩
  rw [e, mergeFields_at_limit]

theorem ReadsNodeOnto.empty (depth : Nat) (cur : Node) : ReadsNodeOnto depth [] cur cur := by
  intro fuel tail hfuel
  obtain ⟨f, rfl⟩ : ∃ f, fuel = f + 1 := ⟨fuel - 1, by omega⟩
  exact mergeNodeFields_at_limit f depth cur tail

/-- One kind entry: a key read as `(n, wt)`, then a value that `mergeKind` reads. -/
theorem ReadsNodeOnto.entry {depth : Nat} {K V : Bytes} {n : Nat} {wt : WireType} {cur nd : Node}
    (hK : K ≠ []) (hkey : ∀ rest, readKey (K ++ rest) = .ok ((n, wt), rest))
    (hkind : ∀ fuel tail, 4 * V.length + 2 ≤ fuel →
      mergeKind fuel depth cur n wt (V ++ tail) = .ok (nd, tail)) :
    ReadsNodeOnto depth (K ++ V) cur nd := by
  intro fuel tail hfuel
  have hK0 : 0 < K.length := List.length_pos_iff.2 hK
  simp only [List.length_append] at hfuel
  obtain ⟨f, rfl⟩ : ∃ f, fuel = f + 1 + 1 := ⟨fuel - 2, by omega⟩
  have hlong : tail.length < (K ++ (V ++ tail)).length := by simp; omega
  rw [List.append_assoc, mergeNodeFields_of_read hlong (hkey _) (hkind (f + 1) tail (by omega))]
  exact mergeNodeFields_at_limit f depth nd tail

/-- An unmodelled kind is read as its tag and payload, whatever was read before. -/
theorem ReadsNodeOnto.raw {depth tag : Nat} {payload : Bytes} (cur : Node) (h0 : 0 < tag)
    (h29 : tag < 2 ^ 29) (hnone : Kind.ofTag? tag = none) (hp : payload.length < 2 ^ 64) :
    ReadsNodeOnto depth (writeChunk tag payload) cur (.raw tag payload) := by
  rw [writeChunk, writeFramed, List.append_assoc]
  refine ReadsNodeOnto.entry (by simp [writeKey, ← List.length_pos_iff, varintLen_pos])
    (fun rest => readKey_writeKey _ _ rest h0 h29) fun fuel tail _ => ?_
  obtain ⟨f, rfl⟩ : ∃ f, fuel = f + 1 := ⟨fuel - 1, by omega⟩
  simp only [mergeKind, hnone, List.append_assoc, readBytes_append _ _ hp, Except.map]

/-- A modelled kind read after a node of the same kind is read onto that node's values. -/
theorem ReadsNodeOnto.typed_same {depth : Nat} {k : Kind} {X : Bytes} {fs₀ fs : List Field}
    (hread : ReadsFields (depth - 1) k X fs₀ fs) (hd : depth ≠ 0) (hX : X.length < 2 ^ 64) :
    ReadsNodeOnto depth (writeFramed k.tag X.length X) (.typed (.mk k fs₀)) (.typed (.mk k fs)) := by
  have hrange := Kind.tags_in_range k (Kind.mem_all k)
  rw [writeFramed, List.append_assoc]
  refine ReadsNodeOnto.entry (by simp [writeKey, ← List.length_pos_iff, varintLen_pos])
    (fun rest => readKey_writeKey _ _ rest hrange.1 hrange.2) fun fuel tail hfuel => ?_
  obtain ⟨f, rfl⟩ : ∃ f, fuel = f + 1 := ⟨fuel - 1, by omega⟩
  simp only [mergeKind, Kind.ofTag?_tag, if_pos, List.append_assoc]
  rw [mergeMessage_framed_onto hread hd hX f (by simp at hfuel; omega) tail]
  rfl

/-- A modelled kind read after anything but a node of that kind is read into a blank message. -/
theorem ReadsNodeOnto.typed_other {depth : Nat} {k : Kind} {X : Bytes} {cur : Node}
    {fs : List Field} (hcur : ∀ fs₀, cur ≠ .typed (.mk k fs₀))
    (hread : ReadsFields (depth - 1) k X k.blank fs) (hd : depth ≠ 0) (hX : X.length < 2 ^ 64) :
    ReadsNodeOnto depth (writeFramed k.tag X.length X) cur (.typed (.mk k fs)) := by
  have hrange := Kind.tags_in_range k (Kind.mem_all k)
  rw [writeFramed, List.append_assoc]
  refine ReadsNodeOnto.entry (by simp [writeKey, ← List.length_pos_iff, varintLen_pos])
    (fun rest => readKey_writeKey _ _ rest hrange.1 hrange.2) fun fuel tail hfuel => ?_
  obtain ⟨f, rfl⟩ : ∃ f, fuel = f + 1 := ⟨fuel - 1, by omega⟩
  have hmsg := mergeMessage_framed_onto hread hd hX f (by simp at hfuel; omega) tail
  simp only [mergeKind, Kind.ofTag?_tag, List.append_assoc]
  -- whatever `cur` holds, the message starts blank
  split
  · rename_i k' fs'
    split_ifs with hk
    · subst hk
      exact absurd rfl (hcur fs')
    · rw [hmsg]
      rfl
  · rw [hmsg]
    rfl

/-! ## What a well-formed field value is -/

section Fits

variable {ty : FieldType}

theorem Field.fits_int32 {v : Int32} (h : Field.fits ty (.int32 v) = true) : ty = .int32 := by
  cases ty <;> simp [Field.fits] at h ⊢

theorem Field.fits_uint32 {v : UInt32} (h : Field.fits ty (.uint32 v) = true) : ty = .uint32 := by
  cases ty <;> simp [Field.fits] at h ⊢

theorem Field.fits_bool {v : Bool} (h : Field.fits ty (.bool v) = true) : ty = .bool := by
  cases ty <;> simp [Field.fits] at h ⊢

theorem Field.fits_text {v : String} (h : Field.fits ty (.text v) = true) : ty = .text := by
  cases ty <;> simp [Field.fits] at h ⊢

theorem Field.fits_bytes {v : Option Bytes} (h : Field.fits ty (.bytes v) = true) :
    ty = .bytes := by
  cases ty <;> cases v <;> simp [Field.fits] at h ⊢

theorem Field.fits_node {v : Option Node} (h : Field.fits ty (.node v) = true) :
    ty = .node ∧ ∀ nd, v = some nd → nd.wellFormed = true := by
  cases ty <;> cases v <;> simp_all [Field.fits]

theorem Field.fits_nodes {nds : List Node} (h : Field.fits ty (.nodes nds) = true) :
    ty = .nodes ∧ nodesWellFormed nds = true := by
  cases ty <;> simp_all [Field.fits]

theorem Field.fits_message {v : Option Message} (h : Field.fits ty (.message v) = true) :
    ∃ k, ty = .message k ∧
      ∀ k' fs, v = some (.mk k' fs) → k' = k ∧ fieldsWellFormed k.fields fs = true := by
  cases ty with
  | message k =>
    refine ⟨k, rfl, fun k' fs hv => ?_⟩
    subst hv
    simp only [Field.fits, Bool.and_eq_true, beq_iff_eq] at h
    exact ⟨h.1, h.1 ▸ h.2⟩
  | _ => cases v <;> simp [Field.fits] at h

theorem Field.fits_choice {v : Option (Nat × Message)} (h : Field.fits ty (.choice v) = true) :
    ∃ alts, ty = .choice alts ∧ ∀ alt k fs, v = some (alt, .mk k fs) →
      (alts.find? (·.1 == alt)).map (·.2.2) = some k ∧ fieldsWellFormed k.fields fs = true := by
  cases ty with
  | choice alts =>
    refine ⟨alts, rfl, fun alt k fs hv => ?_⟩
    subst hv
    simpa only [Field.fits, Bool.and_eq_true, beq_iff_eq] using h
  | _ => rcases v with _ | ⟨_, _, _⟩ <;> simp [Field.fits] at h

end Fits

theorem Node.nesting_pos (nd : Node) : 0 < nd.nesting := by
  rcases nd with _ | ⟨_, _⟩ | _ <;> simp [Node.nesting]

/-! ## Merging what is read later into what was read before

The format's merge rules, for a node written as the encoder writes it after another node has
been read: a value at its default is never written, so it leaves what was read before. -/

mutual
/-- The node read when `nd`'s encoding follows a node `cur`: an empty node keeps `cur`, the same
modelled kind merges field by field, and any other kind replaces `cur`. -/
def Node.merge : Node → Node → Node
  | cur, .empty => cur
  | .typed (.mk k fs), .typed (.mk k' gs) =>
    if k = k' then .typed (.mk k' (mergeFieldValues fs gs)) else .typed (.mk k' gs)
  | _, .typed m => .typed m
  | _, .raw tag payload => .raw tag payload
termination_by structural _ nd => nd

/-- The values of a message read after the values `fs`, merged field by field. -/
def mergeFieldValues : List Field → List Field → List Field
  | f :: fs, g :: gs => f.merge g :: mergeFieldValues fs gs
  | fs, [] => fs
  | [], gs => gs
termination_by structural _ gs => gs

/-- A field value read after the value `a`: a scalar or a text takes the later value unless it is
the default, a list appends, a node merges, unmodelled bytes are replaced, and a sub-message
merges when it is the same message (for a oneof, the same alternative) and is replaced
otherwise. -/
def Field.merge : Field → Field → Field
  | .int32 a, .int32 b => .int32 (if b = 0 then a else b)
  | .uint32 a, .uint32 b => .uint32 (if b = 0 then a else b)
  | .bool a, .bool b => .bool (a || b)
  | .text a, .text b => .text (if b.isEmpty then a else b)
  | .bytes a, .bytes b => .bytes (b.or a)
  | a, .node none => a
  | .node a, .node (some nd) => .node (some ((a.getD .empty).merge nd))
  | .nodes a, .nodes b => .nodes (a ++ b)
  | a, .message none => a
  | .message (some (.mk k fs)), .message (some (.mk k' gs)) =>
    if k = k' then .message (some (.mk k' (mergeFieldValues fs gs)))
    else .message (some (.mk k' gs))
  | a, .choice none => a
  | .choice (some (alt, .mk k fs)), .choice (some (alt', .mk k' gs)) =>
    if alt = alt' ∧ k = k' then .choice (some (alt', .mk k' (mergeFieldValues fs gs)))
    else .choice (some (alt', .mk k' gs))
  | _, b => b
termination_by structural _ b => b
end

@[simp] theorem Node.empty_merge (nd : Node) : Node.empty.merge nd = nd := by
  rcases nd with _ | ⟨k, gs⟩ | _ <;> rfl

@[simp] theorem Node.merge_empty (cur : Node) : cur.merge .empty = cur := by
  rcases cur with _ | ⟨k, fs⟩ | _ <;> rfl

@[simp] theorem Node.merge_raw (cur : Node) (tag : Nat) (payload : Bytes) :
    cur.merge (.raw tag payload) = .raw tag payload := by
  rcases cur with _ | ⟨k, fs⟩ | _ <;> rfl

theorem Node.merge_typed_same (k : Kind) (fs gs : List Field) :
    (Node.typed (.mk k fs)).merge (.typed (.mk k gs)) = .typed (.mk k (mergeFieldValues fs gs)) := by
  simp [Node.merge]

theorem Node.merge_typed_of_ne {cur : Node} {k : Kind} (hcur : ∀ fs, cur ≠ .typed (.mk k fs))
    (gs : List Field) : cur.merge (.typed (.mk k gs)) = .typed (.mk k gs) := by
  rcases cur with _ | ⟨k', fs⟩ | _
  · rfl
  · have hk : k' ≠ k := fun h => hcur fs (by rw [h])
    simp [Node.merge, hk]
  · rfl

/-- A node, message or oneof left unset leaves what was read before. -/
@[simp] theorem Field.merge_node_none (x : Field) : x.merge (.node none) = x := by
  cases x <;> rfl

@[simp] theorem Field.merge_message_none (x : Field) : x.merge (.message none) = x := by
  cases x <;> rfl

@[simp] theorem Field.merge_choice_none (x : Field) : x.merge (.choice none) = x := by
  cases x <;> rfl

theorem FieldType.default_fits (ty : FieldType) : Field.fits ty ty.default = true := by
  cases ty <;> rfl

/-- A value merged into its type's default is that value. -/
theorem Field.default_merge {ty : FieldType} {f : Field} (h : Field.fits ty f = true) :
    ty.default.merge f = f := by
  cases f with
  | int32 v =>
    rw [Field.fits_int32 h]
    by_cases hv : v = 0 <;> simp [FieldType.default, Field.merge, hv]
  | uint32 v =>
    rw [Field.fits_uint32 h]
    by_cases hv : v = 0 <;> simp [FieldType.default, Field.merge, hv]
  | bool v =>
    rw [Field.fits_bool h]
    rfl
  | text v =>
    rw [Field.fits_text h]
    by_cases hv : v = "" <;> simp [FieldType.default, Field.merge, hv]
  | bytes v =>
    rw [Field.fits_bytes h]
    cases v <;> rfl
  | node v =>
    rw [(Field.fits_node h).1]
    rcases v with _ | nd
    · rfl
    · simp [FieldType.default, Field.merge]
  | nodes v =>
    rw [(Field.fits_nodes h).1]
    rfl
  | message v =>
    obtain ⟨k, hty, -⟩ := Field.fits_message h
    rw [hty]
    rcases v with _ | ⟨k', gs⟩ <;> rfl
  | choice v =>
    obtain ⟨alts, hty, -⟩ := Field.fits_choice h
    rw [hty]
    rcases v with _ | ⟨alt, k', gs⟩ <;> rfl

theorem fieldsWellFormed_blank (specs : List FieldSpec) :
    fieldsWellFormed specs (specs.map (·.type.default)) = true := by
  induction specs with
  | nil => rfl
  | cons spec specs ih => simp [fieldsWellFormed, FieldType.default_fits, ih]

/-- Values merged into a blank message are those values. -/
theorem mergeFieldValues_blank : (specs : List FieldSpec) → (fs : List Field) →
    fieldsWellFormed specs fs = true → mergeFieldValues (specs.map (·.type.default)) fs = fs
  | [], [], _ => rfl
  | spec :: specs, f :: fs, hwf => by
    rw [fieldsWellFormed, Bool.and_eq_true] at hwf
    rw [List.map_cons, mergeFieldValues, Field.default_merge hwf.1,
      mergeFieldValues_blank specs fs hwf.2]
  | [], _ :: _, hwf | _ :: _, [], hwf => by simp [fieldsWellFormed] at hwf

theorem Kind.blank_mergeFieldValues (k : Kind) {fs : List Field}
    (h : fieldsWellFormed k.fields fs = true) : mergeFieldValues k.blank fs = fs :=
  mergeFieldValues_blank k.fields fs h

/-! ## Every well-formed node is read back onto what was read before -/

mutual
/-- A well-formed node is read from its encoding onto any well-formed node read before, giving
their merge, when the budget leaves room for its nesting. -/
theorem Node.reads_encode_onto : (nd : Node) → nd.wellFormed = true → (depth : Nat) →
    nd.nesting ≤ depth + 1 → nd.encode.length < 2 ^ 64 → (cur : Node) → cur.wellFormed = true →
    ReadsNodeOnto depth nd.encode cur (cur.merge nd)
  | .empty, _, depth, _, _, cur, _ => by
    rw [Node.merge_empty]
    exact ReadsNodeOnto.empty depth cur
  | .raw tag payload, hwf, depth, _, hlen, cur, _ => by
    simp only [Node.wellFormed, Bool.and_eq_true, decide_eq_true_eq] at hwf
    obtain ⟨⟨h0, h29⟩, hall⟩ := hwf
    rw [Node.encode] at hlen ⊢
    rw [length_writeChunk, chunkLen] at hlen
    rw [Node.merge_raw]
    exact ReadsNodeOnto.raw cur h0 h29 (Kind.ofTag?_eq_none tag hall) (by omega)
  | .typed (.mk k gs), hwf, depth, hnest, hlen, cur, hcur => by
    rw [Node.wellFormed] at hwf
    rw [Node.nesting] at hnest
    rw [Node.encode, fieldsLen_eq] at hlen ⊢
    rw [length_writeFramed] at hlen
    have hbody : (encodeFields k.fields gs).length < 2 ^ 64 := by omega
    have honto : ∀ fs₀, fieldsWellFormed k.fields fs₀ = true →
        ReadsFields (depth - 1) k (encodeFields k.fields gs) fs₀ (mergeFieldValues fs₀ gs) := by
      intro fs₀ h₀
      have h := reads_encodeFields_onto k (depth - 1) k.fields gs [] fs₀ (by simp) hwf h₀
        (by omega) hbody
      rwa [List.nil_append, List.nil_append] at h
    -- a message of the same kind read before is merged into; anything else is replaced
    by_cases hsame : ∃ fs₀, cur = .typed (.mk k fs₀)
    · obtain ⟨fs₀, rfl⟩ := hsame
      rw [Node.merge_typed_same]
      exact ReadsNodeOnto.typed_same (honto fs₀ hcur) (by omega) hbody
    · have hblank := honto k.blank (fieldsWellFormed_blank k.fields)
      rw [Kind.blank_mergeFieldValues k hwf] at hblank
      rw [Node.merge_typed_of_ne (fun fs₀ h => hsame ⟨fs₀, h⟩)]
      exact ReadsNodeOnto.typed_other (fun fs₀ h => hsame ⟨fs₀, h⟩) hblank (by omega) hbody
termination_by structural nd => nd

/-- The fields of a well-formed message, from the layout position `pre.length` on, are read onto
the well-formed values `cur` read there before, giving their merge. -/
theorem reads_encodeFields_onto (k : Kind) (depth : Nat) : (specs : List FieldSpec) →
    (fs : List Field) → (pre cur : List Field) → k.fields.drop pre.length = specs →
    fieldsWellFormed specs fs = true → fieldsWellFormed specs cur = true →
    fieldsNesting fs ≤ depth → (encodeFields specs fs).length < 2 ^ 64 →
    ReadsFields depth k (encodeFields specs fs) (pre ++ cur) (pre ++ mergeFieldValues cur fs)
  | [], [], _, [], _, _, _, _, _ => ReadsFields.nil _
  | [], _ :: _, _, _, _, hwf, _, _, _ => by simp [fieldsWellFormed] at hwf
  | _ :: _, [], _, _, _, hwf, _, _, _ => by simp [fieldsWellFormed] at hwf
  | [], [], _, _ :: _, _, _, hcur, _, _ => by simp [fieldsWellFormed] at hcur
  | _ :: _, _ :: _, _, [], _, _, hcur, _, _ => by simp [fieldsWellFormed] at hcur
  | spec :: specs, f :: fs, pre, x :: xs, hdrop, hwf, hcur, hnest, hlen => by
    rw [fieldsWellFormed, Bool.and_eq_true] at hwf hcur
    rw [fieldsNesting] at hnest
    rw [encodeFields] at hlen ⊢
    rw [List.length_append] at hlen
    have hspec : k.fields[pre.length]? = some spec := by
      rw [← List.head?_drop, hdrop]
      rfl
    have hdrop' : k.fields.drop (pre ++ [x.merge f]).length = specs := by
      rw [List.length_append, List.length_singleton, ← List.drop_drop, hdrop]
      rfl
    have hfield := Field.reads_encode_onto k depth pre spec xs hspec f x hwf.1 hcur.1 (by omega)
      (by omega)
    have hrest := reads_encodeFields_onto k depth specs fs (pre ++ [x.merge f]) xs hdrop' hwf.2
      hcur.2 (by omega) (by omega)
    rw [List.append_assoc, List.singleton_append, List.append_assoc, List.singleton_append] at hrest
    rw [mergeFieldValues]
    exact hfield.append hrest
termination_by structural _ fs => fs

/-- One well-formed field value at layout position `pre.length` is read onto the well-formed
value `x` read there before, giving their merge. -/
theorem Field.reads_encode_onto (k : Kind) (depth : Nat) (pre : List Field) (spec : FieldSpec)
    (rest : List Field) (hspec : k.fields[pre.length]? = some spec) : (f x : Field) →
    Field.fits spec.type f = true → Field.fits spec.type x = true → f.nesting ≤ depth →
    (f.encode spec.number).length < 2 ^ 64 →
    ReadsFields depth k (f.encode spec.number) (pre ++ x :: rest) (pre ++ x.merge f :: rest)
  | .int32 v, x, hfit, hx, _, _ => by
    have hty := Field.fits_int32 hfit
    have hnum := spec.number_mem_numbers (by simp [hty])
    rw [hty] at hx
    rcases x with a | a | a | a | a | a | a | a | a <;>
      simp only [Field.fits, Bool.false_eq_true] at hx
    simp only [Field.encode, writeInt32, writeScalar]
    -- a zero is left out, and the value read before stays
    by_cases hv : ofInt32 v = 0
    · obtain rfl : v = 0 := (ofInt32_eq_zero_iff v).1 hv
      rw [if_pos hv, show (Field.int32 a).merge (.int32 0) = .int32 a by simp [Field.merge]]
      exact ReadsFields.nil _
    · have hv0 : v ≠ 0 := fun h => hv ((ofInt32_eq_zero_iff v).2 h)
      rw [if_neg hv, show (Field.int32 a).merge (.int32 v) = .int32 v by simp [Field.merge, hv0]]
      refine ReadsFields.field hspec hnum fun fuel tail _ => ?_
      simp [hty, mergeValue, readScalar_append _ _ (ofInt32_lt v), Except.map, toInt32_ofInt32]
  | .uint32 v, x, hfit, hx, _, _ => by
    have hty := Field.fits_uint32 hfit
    have hnum := spec.number_mem_numbers (by simp [hty])
    rw [hty] at hx
    rcases x with a | a | a | a | a | a | a | a | a <;>
      simp only [Field.fits, Bool.false_eq_true] at hx
    simp only [Field.encode, writeScalar]
    by_cases hv : v.toNat = 0
    · obtain rfl : v = 0 := by rw [← UInt32.toNat_inj]; exact hv
      rw [if_pos hv, show (Field.uint32 a).merge (.uint32 0) = .uint32 a by simp [Field.merge]]
      exact ReadsFields.nil _
    · have hv0 : v ≠ 0 := fun h => hv (by simp [h])
      rw [if_neg hv, show (Field.uint32 a).merge (.uint32 v) = .uint32 v by
        simp [Field.merge, hv0]]
      refine ReadsFields.field hspec hnum fun fuel tail _ => ?_
      have hlt : v.toNat < 2 ^ 64 := by have := v.toNat_lt; omega
      simp [hty, mergeValue, readScalar_append _ _ hlt, Except.map]
  | .bool v, x, hfit, hx, _, _ => by
    have hty := Field.fits_bool hfit
    have hnum := spec.number_mem_numbers (by simp [hty])
    rw [hty] at hx
    rcases x with a | a | a | a | a | a | a | a | a <;>
      simp only [Field.fits, Bool.false_eq_true] at hx
    simp only [Field.encode, writeScalar]
    cases v with
    | false =>
      rw [show (Field.bool a).merge (.bool false) = .bool a by simp [Field.merge]]
      exact ReadsFields.nil _
    | true =>
      rw [show (Field.bool a).merge (.bool true) = .bool true by simp [Field.merge]]
      refine ReadsFields.field hspec hnum fun fuel tail _ => ?_
      simp [hty, mergeValue, readScalar_append 1 tail (by omega), Except.map]
  | .text v, x, hfit, hx, _, hlen => by
    have hty := Field.fits_text hfit
    have hnum := spec.number_mem_numbers (by simp [hty])
    rw [hty] at hx
    rcases x with a | a | a | a | a | a | a | a | a <;>
      simp only [Field.fits, Bool.false_eq_true] at hx
    simp only [Field.encode] at hlen ⊢
    by_cases hv : v.isEmpty
    · obtain rfl : v = "" := String.isEmpty_iff.1 hv
      rw [if_pos hv, show (Field.text a).merge (.text "") = .text a by simp [Field.merge]]
      exact ReadsFields.nil _
    · have hv' : v ≠ "" := fun h => hv (String.isEmpty_iff.2 h)
      rw [if_neg hv] at hlen ⊢
      rw [show (Field.text a).merge (.text v) = .text v by simp [Field.merge, hv']]
      rw [length_writeChunk, chunkLen] at hlen
      rw [writeChunk, writeFramed, List.append_assoc]
      refine ReadsFields.field hspec hnum fun fuel tail _ => ?_
      simp [hty, mergeValue, readText_append v tail (by omega), Except.map]
  | .bytes none, x, hfit, hx, _, _ => by
    rw [Field.fits_bytes hfit] at hx
    rcases x with a | a | a | a | a | a | a | a | a <;>
      simp only [Field.fits, Bool.false_eq_true] at hx
    rw [show (Field.bytes a).merge (.bytes none) = .bytes a by simp [Field.merge]]
    exact ReadsFields.nil _
  | .bytes (some b), x, hfit, hx, _, hlen => by
    have hty := Field.fits_bytes hfit
    have hnum := spec.number_mem_numbers (by simp [hty])
    rw [hty] at hx
    rcases x with a | a | a | a | a | a | a | a | a <;>
      simp only [Field.fits, Bool.false_eq_true] at hx
    -- unmodelled bytes read later replace those read before
    rw [show (Field.bytes a).merge (.bytes (some b)) = .bytes (some b) by simp [Field.merge]]
    simp only [Field.encode] at hlen ⊢
    rw [length_writeChunk, chunkLen] at hlen
    rw [writeChunk, writeFramed, List.append_assoc]
    refine ReadsFields.field hspec hnum fun fuel tail _ => ?_
    simp [hty, mergeValue, readBytes_append b tail (by omega), Except.map]
  | .node none, x, _, _, _, _ => by
    rw [Field.merge_node_none]
    exact ReadsFields.nil _
  | .node (some nd), x, hfit, hx, hnest, hlen => by
    obtain ⟨hty, hwf⟩ := Field.fits_node hfit
    have hnum := spec.number_mem_numbers (by simp [hty])
    simp only [Field.encode, Node.encodedLen_eq] at hlen ⊢
    rw [length_writeFramed] at hlen
    rw [Field.nesting] at hnest
    have hpos := nd.nesting_pos
    have hread : ∀ cur, cur.wellFormed = true →
        ReadsNodeOnto (depth - 1) nd.encode cur (cur.merge nd) :=
      Node.reads_encode_onto nd (hwf nd rfl) (depth - 1) (by omega) (by omega)
    rw [hty] at hx
    rw [writeFramed, List.append_assoc]
    -- the node is read onto the node read before, or onto an empty one
    rcases x with a | a | a | a | a | (_ | n) | a | a | a <;>
      simp only [Field.fits, Bool.false_eq_true] at hx
    · refine ReadsFields.field hspec hnum fun fuel tail hfuel => ?_
      simp only [hty, mergeValue]
      rw [List.append_assoc, mergeNode_framed_onto (hread .empty rfl) (by omega) (by omega) fuel
        (by simpa using hfuel) tail]
      rfl
    · refine ReadsFields.field hspec hnum fun fuel tail hfuel => ?_
      simp only [hty, mergeValue]
      rw [List.append_assoc, mergeNode_framed_onto (hread n hx) (by omega) (by omega) fuel
        (by simpa using hfuel) tail]
      rfl
  | .nodes nds, x, hfit, hx, hnest, hlen => by
    obtain ⟨hty, hwf⟩ := Field.fits_nodes hfit
    simp only [Field.encode] at hlen ⊢
    rw [Field.nesting] at hnest
    rw [hty] at hx
    rcases x with a | a | a | a | a | a | acc | a | a <;>
      simp only [Field.fits, Bool.false_eq_true] at hx
    exact reads_encodeNodes k depth pre spec rest hspec hty nds acc hwf hnest hlen
  | .message none, x, _, _, _, _ => by
    rw [Field.merge_message_none]
    exact ReadsFields.nil _
  | .message (some (.mk k' gs)), x, hfit, hx, hnest, hlen => by
    obtain ⟨k₀, hty, hwf⟩ := Field.fits_message hfit
    obtain ⟨rfl, hwf⟩ := hwf k' gs rfl
    have hnum := spec.number_mem_numbers (by simp [hty])
    simp only [Field.encode, fieldsLen_eq] at hlen ⊢
    rw [length_writeFramed] at hlen
    rw [Field.nesting] at hnest
    have honto : ∀ fs₀, fieldsWellFormed k'.fields fs₀ = true →
        ReadsFields (depth - 1) k' (encodeFields k'.fields gs) fs₀ (mergeFieldValues fs₀ gs) := by
      intro fs₀ h₀
      have h := reads_encodeFields_onto k' (depth - 1) k'.fields gs [] fs₀ (by simp) hwf h₀
        (by omega) (by omega)
      rwa [List.nil_append, List.nil_append] at h
    rw [hty] at hx
    rw [writeFramed, List.append_assoc]
    rcases x with a | a | a | a | a | a | a | (_ | ⟨k₁, fs₀⟩) | a <;>
      simp only [Field.fits, Bool.false_eq_true] at hx
    · -- nothing read before: the message is read into a blank one
      have hblank := honto k'.blank (fieldsWellFormed_blank k'.fields)
      rw [Kind.blank_mergeFieldValues k' hwf] at hblank
      refine ReadsFields.field hspec hnum fun fuel tail hfuel => ?_
      simp only [hty, mergeValue]
      rw [List.append_assoc, mergeMessage_framed_onto hblank (by omega) (by omega) fuel
        (by simpa using hfuel) tail]
      rfl
    · rw [Bool.and_eq_true, beq_iff_eq] at hx
      obtain ⟨rfl, hfs₀⟩ := hx
      rw [show (Field.message (some (.mk k₁ fs₀))).merge (.message (some (.mk k₁ gs))) =
        .message (some (.mk k₁ (mergeFieldValues fs₀ gs))) by simp [Field.merge]]
      refine ReadsFields.field hspec hnum fun fuel tail hfuel => ?_
      simp only [hty, mergeValue, if_pos]
      rw [List.append_assoc, mergeMessage_framed_onto (honto fs₀ hfs₀) (by omega) (by omega) fuel
        (by simpa using hfuel) tail]
      rfl
  | .choice none, x, _, _, _, _ => by
    rw [Field.merge_choice_none]
    exact ReadsFields.nil _
  | .choice (some (alt, .mk k' gs)), x, hfit, hx, hnest, hlen => by
    obtain ⟨alts, hty, hwf⟩ := Field.fits_choice hfit
    obtain ⟨hfind, hwf⟩ := hwf alt k' gs rfl
    obtain ⟨⟨alt', name, k''⟩, hfound, rfl⟩ := Option.map_eq_some_iff.1 hfind
    -- the alternative is written under its own number, which the layout's oneof offers
    have hnum : alt ∈ spec.numbers := by
      have hsame : alt' = alt := by simpa using List.find?_some hfound
      subst hsame
      simpa [FieldSpec.numbers, hty] using ⟨name, k'', List.mem_of_find?_eq_some hfound⟩
    simp only [Field.encode, fieldsLen_eq] at hlen ⊢
    rw [length_writeFramed] at hlen
    rw [Field.nesting] at hnest
    have honto : ∀ fs₀, fieldsWellFormed k''.fields fs₀ = true →
        ReadsFields (depth - 1) k'' (encodeFields k''.fields gs) fs₀ (mergeFieldValues fs₀ gs) := by
      intro fs₀ h₀
      have h := reads_encodeFields_onto k'' (depth - 1) k''.fields gs [] fs₀ (by simp) hwf h₀
        (by omega) (by omega)
      rwa [List.nil_append, List.nil_append] at h
    have hblank := honto k''.blank (fieldsWellFormed_blank k''.fields)
    rw [Kind.blank_mergeFieldValues k'' hwf] at hblank
    rw [hty] at hx
    rw [writeFramed, List.append_assoc]
    rcases x with a | a | a | a | a | a | a | a | (_ | ⟨alt₀, k₀, fs₀⟩) <;>
      simp only [Field.fits, Bool.false_eq_true] at hx
    · -- nothing set before: the alternative is read into a blank message
      refine ReadsFields.field hspec hnum fun fuel tail hfuel => ?_
      simp only [hty, mergeValue, hfound]
      rw [List.append_assoc, mergeMessage_framed_onto hblank (by omega) (by omega) fuel
        (by simpa using hfuel) tail]
      rfl
    · -- the same alternative of the same message is merged into, any other replaced
      rw [Bool.and_eq_true] at hx
      by_cases hsame : alt₀ = alt ∧ k₀ = k''
      · obtain ⟨rfl, rfl⟩ := hsame
        rw [show (Field.choice (some (alt₀, .mk k₀ fs₀))).merge (.choice (some (alt₀, .mk k₀ gs))) =
          .choice (some (alt₀, .mk k₀ (mergeFieldValues fs₀ gs))) by simp [Field.merge]]
        refine ReadsFields.field hspec hnum fun fuel tail hfuel => ?_
        simp only [hty, mergeValue, hfound, and_self, if_pos]
        rw [List.append_assoc, mergeMessage_framed_onto (honto fs₀ hx.2) (by omega) (by omega)
          fuel (by simpa using hfuel) tail]
        rfl
      · rw [show (Field.choice (some (alt₀, .mk k₀ fs₀))).merge (.choice (some (alt, .mk k'' gs))) =
          .choice (some (alt, .mk k'' gs)) by simp only [Field.merge, if_neg hsame]]
        refine ReadsFields.field hspec hnum fun fuel tail hfuel => ?_
        simp only [hty, mergeValue, hfound, if_neg hsame]
        rw [List.append_assoc, mergeMessage_framed_onto hblank (by omega) (by omega) fuel
          (by simpa using hfuel) tail]
        rfl
termination_by structural f => f

/-- A list of well-formed nodes, each its own entry of a list field, is appended to the list
the field holds so far. -/
theorem reads_encodeNodes (k : Kind) (depth : Nat) (pre : List Field) (spec : FieldSpec)
    (rest : List Field) (hspec : k.fields[pre.length]? = some spec) (hty : spec.type = .nodes) :
    (nds : List Node) → (acc : List Node) → nodesWellFormed nds = true →
    nodesNesting nds ≤ depth → (encodeNodes spec.number nds).length < 2 ^ 64 →
    ReadsFields depth k (encodeNodes spec.number nds) (pre ++ .nodes acc :: rest)
      (pre ++ .nodes (acc ++ nds) :: rest)
  | [], acc, _, _, _ => by
    rw [List.append_nil]
    exact ReadsFields.nil _
  | nd :: nds, acc, hwf, hnest, hlen => by
    rw [nodesWellFormed, Bool.and_eq_true] at hwf
    rw [nodesNesting] at hnest
    rw [encodeNodes, List.length_append, length_writeFramed, Node.encodedLen_eq] at hlen
    have hnum := spec.number_mem_numbers (by simp [hty])
    have hpos := nd.nesting_pos
    -- each entry is a node of its own, read onto an empty one
    have hread := Node.reads_encode_onto nd hwf.1 (depth - 1) (by omega) (by omega) .empty rfl
    rw [Node.empty_merge] at hread
    have hone : ReadsFields depth k (writeFramed spec.number nd.encodedLen nd.encode)
        (pre ++ .nodes acc :: rest) (pre ++ .nodes (acc ++ [nd]) :: rest) := by
      rw [writeFramed, List.append_assoc, Node.encodedLen_eq]
      refine ReadsFields.field hspec hnum fun fuel tail hfuel => ?_
      simp only [hty, mergeValue, expect, if_pos]
      rw [List.append_assoc, mergeNode_framed_onto hread (by omega) (by omega) fuel
        (by simpa using hfuel) tail]
      rfl
    have hmore := reads_encodeNodes k depth pre spec rest hspec hty nds (acc ++ [nd]) hwf.2
      (by omega) (by omega)
    rw [List.append_assoc, List.singleton_append] at hmore
    rw [encodeNodes]
    exact hone.append hmore
termination_by structural nds => nds
end

/-- A well-formed node is read back from its body when the budget leaves room for its nesting. -/
theorem Node.reads_encode (nd : Node) (hwf : nd.wellFormed = true) (depth : Nat)
    (hnest : nd.nesting ≤ depth + 1) (hlen : nd.encode.length < 2 ^ 64) :
    ReadsNode depth nd.encode nd := by
  have h := Node.reads_encode_onto nd hwf depth hnest hlen .empty rfl
  rw [Node.empty_merge] at h
  exact h

end Tree
end PgBinding
