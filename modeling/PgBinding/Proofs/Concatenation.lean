import Mathlib
import PgBinding.Proofs.DecoderFrame
/-!
# Decoding a concatenation merges

Two encoded nodes written one after the other decode as one node. The statement this file
exists for is `decoding_concatenation_merges`. Decoding `a ++ b` reads the entries of `b` onto
the node that `a` decodes to (`Node.decode_append`); every node the decoder gives is well formed
(`Node.decode_wellFormed`); and the encoding of a well-formed node read onto a well-formed node
gives their merge (`Node.reads_encode_onto`). So when `b` is the encoding of a node `t`, the whole
decodes to the merge of what `a` decodes to with `t`.

The merge is that of nodes written as the encoder writes them, which leaves every default value
out. An entry written with its default on purpose is read like any other and replaces what was
read before; an unmodelled kind, and a sub-message kept as bytes, replace theirs too
(`later_payload_replaces_and_default_overrides`). A kind sent with any wire type but a
length-delimited one is refused wherever it stands (`Node.decode_kind_without_length`).
-/
namespace PgBinding
namespace Tree

open Wire

/-! ## Keys and kinds -/

/-- A key that is read names a field number the format can carry. -/
theorem readKey_number_range {bs : Bytes} {n : Nat} {wt : WireType} {r : Bytes}
    (h : readKey bs = .ok ((n, wt), r)) : 0 < n ∧ n < 2 ^ 29 := by
  rw [readKey, bind_eq_ok_iff] at h
  obtain ⟨⟨key, rest⟩, -, h⟩ := h
  dsimp only [bind, Except.bind, Nat.pow_eq] at h
  split_ifs at h with hkey hzero
  · cases h
  · cases hwt : WireType.ofCode? (key % 8) <;> rw [hwt] at h <;> cases h
  · cases hwt : WireType.ofCode? (key % 8) with
    | none => rw [hwt] at h; cases h
    | some wt' =>
      rw [hwt] at h
      simp only [Except.ok.injEq, Prod.mk.injEq] at h
      obtain ⟨⟨rfl, rfl⟩, rfl⟩ := h
      omega

theorem Kind.all_tag_ne_of_ofTag?_eq_none {tag : Nat} (h : Kind.ofTag? tag = none) :
    Kind.all.all (·.tag != tag) = true := by
  rw [Kind.ofTag?, List.find?_eq_none] at h
  rw [List.all_eq_true]
  intro k hk
  simpa using h k hk

/-! ## Well-formed values, entry by entry -/

theorem fieldsWellFormed_getD : {specs : List FieldSpec} → {fs : List Field} → {i : Nat} →
    {spec : FieldSpec} → fieldsWellFormed specs fs = true → specs[i]? = some spec →
    Field.fits spec.type (fs.getD i spec.type.default) = true
  | [], _, _, _, _, hspec => by simp at hspec
  | _ :: _, [], _, _, hwf, _ => by simp [fieldsWellFormed] at hwf
  | spec' :: _, _ :: _, 0, spec, hwf, hspec => by
    rw [fieldsWellFormed, Bool.and_eq_true] at hwf
    obtain rfl : spec' = spec := by simpa using hspec
    exact hwf.1
  | _ :: _, _ :: _, _ + 1, _, hwf, hspec => by
    rw [fieldsWellFormed, Bool.and_eq_true] at hwf
    simpa using fieldsWellFormed_getD hwf.2 (by simpa using hspec)

theorem fieldsWellFormed_set : {specs : List FieldSpec} → {fs : List Field} → {i : Nat} →
    {spec : FieldSpec} → {v : Field} → fieldsWellFormed specs fs = true →
    specs[i]? = some spec → Field.fits spec.type v = true → fieldsWellFormed specs (fs.set i v) = true
  | [], _, _, _, _, _, hspec, _ => by simp at hspec
  | _ :: _, [], _, _, _, hwf, _, _ => by simp [fieldsWellFormed] at hwf
  | spec' :: _, _ :: _, 0, spec, _, hwf, hspec, hv => by
    rw [fieldsWellFormed, Bool.and_eq_true] at hwf
    obtain rfl : spec' = spec := by simpa using hspec
    simp [fieldsWellFormed, hv, hwf.2]
  | _ :: _, _ :: _, _ + 1, _, _, hwf, hspec, hv => by
    rw [fieldsWellFormed, Bool.and_eq_true] at hwf
    simp [fieldsWellFormed, hwf.1, fieldsWellFormed_set hwf.2 (by simpa using hspec) hv]

theorem nodesWellFormed_append (a b : List Node) :
    nodesWellFormed (a ++ b) = (nodesWellFormed a && nodesWellFormed b) := by
  induction a with
  | nil => rfl
  | cons nd a ih => simp [nodesWellFormed, ih, Bool.and_assoc]

/-- The values a message is read onto, those held or else a blank message's, are well formed
when the values held are. -/
theorem fieldsWellFormed_start {k : Kind} {p : Prop} [Decidable p] {fs : List Field}
    (h : p → fieldsWellFormed k.fields fs = true) :
    fieldsWellFormed k.fields (if p then fs else k.blank) = true := by
  split_ifs with hp
  · exact h hp
  · exact fieldsWellFormed_blank k.fields

/-- A mapped reader's value is one the map gives. -/
theorem fits_of_map {α : Type} {ty : FieldType} {g : α × Bytes → Field × Bytes}
    {x : Except DecodeError (α × Bytes)} {v : Field} {r : Bytes} (h : x.map g = .ok (v, r))
    (hg : ∀ p, Field.fits ty (g p).1 = true) : Field.fits ty v = true := by
  obtain ⟨p, -, hp⟩ := map_eq_ok_iff.1 h
  have hfit := hg p
  rwa [hp] at hfit

/-! ## The decoder reads well-formed values

One statement per function of the decoder's mutual recursion, by the same recursion on the
fuel: what is read onto well-formed values is well formed. -/

mutual
theorem mergeFields_wellFormed : (fuel depth : Nat) → (k : Kind) → (fs : List Field) →
    (limit : Nat) → (bs : Bytes) → (fs' : List Field) → (r : Bytes) →
    mergeFields fuel depth k fs limit bs = .ok (fs', r) →
    fieldsWellFormed k.fields fs = true → fieldsWellFormed k.fields fs' = true
  | 0, _, _, _, _, _, _, _, h, _ => by rw [mergeFields] at h; cases h
  | fuel + 1, depth, k, fs, limit, bs, fs', r, h, hwf => by
    rcases mergeFields_eq_ok h with ⟨-, rfl, -⟩ | ⟨-, n, wt, rest, fs₁, rest₁, -, hfield, hrest⟩
    · exact hwf
    · exact mergeFields_wellFormed fuel depth k fs₁ limit rest₁ fs' r hrest
        (mergeField_wellFormed fuel depth k fs n wt rest fs₁ rest₁ hfield hwf)
termination_by structural fuel => fuel

theorem mergeField_wellFormed : (fuel depth : Nat) → (k : Kind) → (fs : List Field) →
    (n : Nat) → (wt : WireType) → (bs : Bytes) → (fs' : List Field) → (r : Bytes) →
    mergeField fuel depth k fs n wt bs = .ok (fs', r) →
    fieldsWellFormed k.fields fs = true → fieldsWellFormed k.fields fs' = true
  | 0, _, _, _, _, _, _, _, _, h, _ => by rw [mergeField] at h; cases h
  | fuel + 1, depth, k, fs, n, wt, bs, fs', r, h, hwf => by
    -- a skipped field keeps the values, a field of the layout sets its own
    rcases mergeField_eq_ok h with ⟨-, rfl, -⟩ | ⟨i, spec, v, -, hspec, hval, rfl⟩
    · exact hwf
    · have hv := mergeValue_wellFormed fuel depth spec.type _ n wt bs v r hval
        (fieldsWellFormed_getD hwf hspec)
      exact fieldsWellFormed_set hwf hspec hv
termination_by structural fuel => fuel

theorem mergeValue_wellFormed : (fuel depth : Nat) → (ty : FieldType) → (cur : Field) →
    (n : Nat) → (wt : WireType) → (bs : Bytes) → (v : Field) → (r : Bytes) →
    mergeValue fuel depth ty cur n wt bs = .ok (v, r) →
    Field.fits ty cur = true → Field.fits ty v = true
  | 0, _, _, _, _, _, _, _, _, h, _ => by rw [mergeValue] at h; cases h
  | fuel + 1, depth, ty, cur, n, wt, bs, v, r, h, hcur => by
    rw [mergeValue.eq_def] at h
    dsimp only at h
    cases ty with
    | int32 => exact fits_of_map h fun _ => rfl
    | uint32 => exact fits_of_map h fun _ => rfl
    | bool => exact fits_of_map h fun _ => rfl
    | text => exact fits_of_map h fun _ => rfl
    | bytes => exact fits_of_map h fun _ => rfl
    | node =>
      -- read onto the node held, or onto an empty one
      rcases cur with _ | _ | _ | _ | _ | (_ | nd) | _ | _ | _ <;>
        simp only [Field.fits, Bool.false_eq_true] at hcur <;>
        dsimp only at h <;>
        obtain ⟨⟨nd', r'⟩, hnode, heq⟩ := map_eq_ok_iff.1 h <;>
        cases heq
      · exact mergeNode_wellFormed fuel depth .empty wt bs nd' r' hnode rfl
      · exact mergeNode_wellFormed fuel depth nd wt bs nd' r' hnode hcur
    | nodes =>
      rcases cur with _ | _ | _ | _ | _ | _ | nds | _ | _ <;>
        simp only [Field.fits, Bool.false_eq_true] at hcur
      dsimp only at h
      split at h
      · cases h
      · obtain ⟨⟨nd', r'⟩, hnode, heq⟩ := map_eq_ok_iff.1 h
        cases heq
        -- one more node, read onto an empty one, after those held
        have hnd := mergeNode_wellFormed fuel depth .empty wt bs nd' r' hnode rfl
        simp [Field.fits, nodesWellFormed_append, nodesWellFormed, hcur, hnd]
    | message k =>
      -- read onto the message held when it is of the field's kind, else onto a blank one
      rcases cur with _ | _ | _ | _ | _ | _ | _ | (_ | ⟨k₁, fs₀⟩) | _ <;>
        simp only [Field.fits, Bool.false_eq_true] at hcur <;>
        dsimp only at h <;>
        obtain ⟨⟨fs', r'⟩, hmsg, heq⟩ := map_eq_ok_iff.1 h <;>
        cases heq
      · have hfs := mergeMessage_wellFormed fuel depth k _ wt bs fs' r' hmsg
          (fieldsWellFormed_blank k.fields)
        simpa [Field.fits] using hfs
      · rw [Bool.and_eq_true, beq_iff_eq] at hcur
        have hfs := mergeMessage_wellFormed fuel depth k _ wt bs fs' r' hmsg
          (fieldsWellFormed_start fun hk => hk ▸ hcur.2)
        simpa [Field.fits] using hfs
    | choice alts =>
      dsimp only at h
      split at h
      · cases h
      · rename_i alt name k' hfind
        -- read onto the alternative held when it is the same one, else onto a blank message
        rcases cur with _ | _ | _ | _ | _ | _ | _ | _ | (_ | ⟨alt₀, k₀, fs₀⟩) <;>
          simp only [Field.fits, Bool.false_eq_true] at hcur <;>
          dsimp only at h <;>
          obtain ⟨⟨fs', r'⟩, hmsg, heq⟩ := map_eq_ok_iff.1 h <;>
          cases heq
        · have hfs := mergeMessage_wellFormed fuel depth k' _ wt bs fs' r' hmsg
            (fieldsWellFormed_blank k'.fields)
          simp [Field.fits, hfind, hfs]
        · rw [Bool.and_eq_true] at hcur
          have hfs := mergeMessage_wellFormed fuel depth k' _ wt bs fs' r' hmsg
            (fieldsWellFormed_start fun hk => hk.2 ▸ hcur.2)
          simp [Field.fits, hfind, hfs]
termination_by structural fuel => fuel

theorem mergeMessage_wellFormed : (fuel depth : Nat) → (k : Kind) → (fs : List Field) →
    (wt : WireType) → (bs : Bytes) → (fs' : List Field) → (r : Bytes) →
    mergeMessage fuel depth k fs wt bs = .ok (fs', r) →
    fieldsWellFormed k.fields fs = true → fieldsWellFormed k.fields fs' = true
  | 0, _, _, _, _, _, _, _, h, _ => by rw [mergeMessage] at h; cases h
  | fuel + 1, depth, k, fs, wt, bs, fs', r, h, hwf => by
    obtain ⟨-, -, limit, rest, -, hfields⟩ := mergeMessage_eq_ok h
    exact mergeFields_wellFormed fuel (depth - 1) k fs limit rest fs' r hfields hwf
termination_by structural fuel => fuel

theorem mergeNode_wellFormed : (fuel depth : Nat) → (nd : Node) → (wt : WireType) →
    (bs : Bytes) → (nd' : Node) → (r : Bytes) → mergeNode fuel depth nd wt bs = .ok (nd', r) →
    nd.wellFormed = true → nd'.wellFormed = true
  | 0, _, _, _, _, _, _, h, _ => by rw [mergeNode] at h; cases h
  | fuel + 1, depth, nd, wt, bs, nd', r, h, hwf => by
    obtain ⟨-, -, limit, rest, -, hfields⟩ := mergeNode_eq_ok h
    exact mergeNodeFields_wellFormed fuel (depth - 1) nd limit rest nd' r hfields hwf
termination_by structural fuel => fuel

theorem mergeNodeFields_wellFormed : (fuel depth : Nat) → (nd : Node) → (limit : Nat) →
    (bs : Bytes) → (nd' : Node) → (r : Bytes) →
    mergeNodeFields fuel depth nd limit bs = .ok (nd', r) →
    nd.wellFormed = true → nd'.wellFormed = true
  | 0, _, _, _, _, _, _, h, _ => by rw [mergeNodeFields] at h; cases h
  | fuel + 1, depth, nd, limit, bs, nd', r, h, hwf => by
    rcases mergeNodeFields_eq_ok h with ⟨-, rfl, -⟩ |
      ⟨-, n, wt, rest, nd₁, rest₁, hkey, hkind, hrest⟩
    · exact hwf
    · -- a key that is read names a field number the format can carry
      have hrange := readKey_number_range hkey
      exact mergeNodeFields_wellFormed fuel depth nd₁ limit rest₁ nd' r hrest
        (mergeKind_wellFormed fuel depth nd n wt rest nd₁ rest₁ hrange.1 hrange.2 hkind hwf)
termination_by structural fuel => fuel

theorem mergeKind_wellFormed : (fuel depth : Nat) → (nd : Node) → (n : Nat) →
    (wt : WireType) → (bs : Bytes) → (nd' : Node) → (r : Bytes) → 0 < n → n < 2 ^ 29 →
    mergeKind fuel depth nd n wt bs = .ok (nd', r) →
    nd.wellFormed = true → nd'.wellFormed = true
  | 0, _, _, _, _, _, _, _, _, _, h, _ => by rw [mergeKind] at h; cases h
  | fuel + 1, depth, nd, n, wt, bs, nd', r, h0, h29, h, hwf => by
    rw [mergeKind] at h
    split at h
    · -- a modelled kind, read onto the message held when it is of that kind
      rename_i k hk
      rcases nd with _ | ⟨k₁, fs₀⟩ | _ <;>
        dsimp only at h <;>
        obtain ⟨⟨fs', r'⟩, hmsg, heq⟩ := map_eq_ok_iff.1 h <;>
        cases heq
      · exact mergeMessage_wellFormed fuel depth k _ wt bs fs' r' hmsg (fieldsWellFormed_blank _)
      · exact mergeMessage_wellFormed fuel depth k _ wt bs fs' r' hmsg
          (fieldsWellFormed_start fun hk => hk ▸ hwf)
      · exact mergeMessage_wellFormed fuel depth k _ wt bs fs' r' hmsg (fieldsWellFormed_blank _)
    · -- any other kind is kept as its tag and payload
      rename_i hk
      obtain ⟨⟨payload, r'⟩, -, heq⟩ := map_eq_ok_iff.1 h
      cases heq
      simp only [Node.wellFormed, Bool.and_eq_true, decide_eq_true_eq]
      exact ⟨⟨h0, h29⟩, Kind.all_tag_ne_of_ofTag?_eq_none hk⟩
termination_by structural fuel => fuel
end

/-- Every node the decoder gives is a value of the binding's node type. -/
theorem Node.decode_wellFormed {bs : Bytes} {nd : Node} (h : Node.decode bs = .ok nd) :
    nd.wellFormed = true := by
  obtain ⟨⟨nd', r⟩, hrun, hnd⟩ := map_eq_ok_iff.1 h
  obtain rfl : nd' = nd := hnd
  exact mergeNodeFields_wellFormed _ _ _ _ _ _ _ hrun rfl

/-! ## Concatenations -/

theorem Node.decode_nil : Node.decode [] = .ok .empty := by
  simp [Node.decode, fuelFor, mergeNodeFields, Except.map]

/-- Bytes that read onto the node the bytes before them decode to give the node the whole
decodes to. -/
theorem Node.decode_append_of_reads {a b : Bytes} {x y : Node} (h : Node.decode a = .ok x)
    (hread : ReadsNodeOnto nestingLimit b x y) : Node.decode (a ++ b) = .ok y := by
  obtain ⟨fuel, hfuel, e⟩ := Node.decode_append h b
  have hrun := hread fuel [] (by simpa using hfuel)
  rw [List.append_nil, List.length_nil] at hrun
  rw [e, hrun]
  rfl

theorem Node.decode_of_reads {bs : Bytes} {nd : Node} (hread : ReadsNodeOnto nestingLimit bs .empty nd) :
    Node.decode bs = .ok nd := by
  simpa using Node.decode_append_of_reads Node.decode_nil hread

/-- The encoding of a well-formed node, after any bytes that decode, is read onto the node these
give: the whole decodes to the merge of the two. -/
theorem Node.decode_append_encode {a : Bytes} {x : Node} (h : Node.decode a = .ok x) {t : Node}
    (hwf : t.wellFormed = true) (hnest : t.nesting ≤ nestingLimit + 1)
    (hlen : t.encode.length < 2 ^ 64) : Node.decode (a ++ t.encode) = .ok (x.merge t) :=
  Node.decode_append_of_reads h
    (Node.reads_encode_onto t hwf nestingLimit hnest hlen x (Node.decode_wellFormed h))

/-- A well-formed node within the nesting limit is decoded back from its encoding. -/
theorem Node.decode_encode {t : Node} (hwf : t.wellFormed = true)
    (hnest : t.nesting ≤ nestingLimit + 1) (hlen : t.encode.length < 2 ^ 64) :
    Node.decode t.encode = .ok t := by
  have hread := Node.reads_encode_onto t hwf nestingLimit hnest hlen .empty rfl
  rw [Node.empty_merge] at hread
  exact Node.decode_of_reads hread

/-- A node kind sent with any wire type but a length-delimited one is refused after any bytes
that decode, whatever follows it. -/
theorem Node.decode_kind_without_length {a : Bytes} {x : Node} (h : Node.decode a = .ok x)
    {n : Nat} (h0 : 0 < n) (h29 : n < 2 ^ 29) {wt : WireType} (hwt : wt ≠ .lengthDelimited)
    (rest : Bytes) :
    Node.decode (a ++ (writeKey n wt ++ rest)) =
      fail s!"invalid wire type: {wt.name} (expected {WireType.lengthDelimited.name})" := by
  obtain ⟨fuel, hfuel, e⟩ := Node.decode_append h (writeKey n wt ++ rest)
  have hK : 0 < (writeKey n wt).length := by simp [length_writeKey, varintLen_pos]
  rw [List.length_append] at hfuel
  obtain ⟨g, rfl⟩ : ∃ g, fuel = g + 1 + 1 + 1 := ⟨fuel - 3, by omega⟩
  rw [e, mergeNodeFields, if_pos (by simp; omega), readKey_writeKey n wt rest h0 h29]
  dsimp only
  -- the kind's entry is refused by its wire type, whether the kind is modelled or not
  rw [mergeKind]
  cases Kind.ofTag? n with
  | some k => simp [mergeMessage, expect, hwt, Except.map, fail]
  | none => simp [readBytes, expect, hwt, Except.map, fail, bind, Except.bind]

/-- Decoding a concatenation. Every node the decoder gives is well formed, and bytes written
after bytes that decode are read onto the node these give. When the later bytes are the encoding
of a well-formed node within the nesting limit, that node is decoded back alone, and the whole
decodes to the merge of the two: a side with no kind keeps the other, the same modelled kind
merges field by field, and any other kind replaces. A node kind sent with a wire type other than
length-delimited is refused wherever it stands. -/
theorem decoding_concatenation_merges :
    (∀ a x, Node.decode a = .ok x → x.wellFormed = true) ∧
    (∀ a x, Node.decode a = .ok x → ∀ b, ∃ fuel, 4 * b.length < fuel ∧
      Node.decode (a ++ b) = (mergeNodeFields fuel nestingLimit x 0 b).map (·.1)) ∧
    (∀ t : Node, t.wellFormed = true → t.nesting ≤ nestingLimit + 1 →
      t.encode.length < 2 ^ 64 →
      Node.decode t.encode = .ok t ∧
      ∀ a x, Node.decode a = .ok x → Node.decode (a ++ t.encode) = .ok (x.merge t)) ∧
    (∀ a x, Node.decode a = .ok x → ∀ n wt rest, 0 < n → n < 2 ^ 29 → wt ≠ .lengthDelimited →
      Node.decode (a ++ (writeKey n wt ++ rest)) =
        fail s!"invalid wire type: {wt.name} (expected {WireType.lengthDelimited.name})") :=
  ⟨fun _ _ h => Node.decode_wellFormed h, fun _ _ h b => Node.decode_append h b,
    fun _ hwf hnest hlen => ⟨Node.decode_encode hwf hnest hlen,
      fun _ _ h => Node.decode_append_encode h hwf hnest hlen⟩,
    fun _ _ h _ _ rest h0 h29 hwt => Node.decode_kind_without_length h h0 h29 hwt rest⟩

/-- Two lists of one integer each, written one after the other, decode as one list of both. -/
theorem list_entries_concatenate :
    Node.decode (Node.encode (.typed (.mk .list [.nodes [.typed (.mk .integer [.int32 1])]]))) =
      .ok (.typed (.mk .list [.nodes [.typed (.mk .integer [.int32 1])]])) ∧
    Node.wellFormed (.typed (.mk .list [.nodes [.typed (.mk .integer [.int32 2])]])) = true ∧
    Node.nesting (.typed (.mk .list [.nodes [.typed (.mk .integer [.int32 2])]])) ≤
      nestingLimit + 1 ∧
    (Node.encode (.typed (.mk .list [.nodes [.typed (.mk .integer [.int32 2])]]))).length <
      2 ^ 64 ∧
    Node.decode (Node.encode (.typed (.mk .list [.nodes [.typed (.mk .integer [.int32 1])]])) ++
        Node.encode (.typed (.mk .list [.nodes [.typed (.mk .integer [.int32 2])]]))) =
      .ok (.typed (.mk .list [.nodes [.typed (.mk .integer [.int32 1]),
        .typed (.mk .integer [.int32 2])]])) := by
  have hx : Node.decode (Node.encode (.typed (.mk .list
      [.nodes [.typed (.mk .integer [.int32 1])]]))) =
      .ok (.typed (.mk .list [.nodes [.typed (.mk .integer [.int32 1])]])) :=
    Node.decode_encode (by decide) (by decide) (by decide)
  have ht : Node.wellFormed (.typed (.mk .list [.nodes [.typed (.mk .integer [.int32 2])]])) =
      true ∧ Node.nesting (.typed (.mk .list [.nodes [.typed (.mk .integer [.int32 2])]])) ≤
      nestingLimit + 1 ∧
      (Node.encode (.typed (.mk .list [.nodes [.typed (.mk .integer [.int32 2])]]))).length <
      2 ^ 64 := by decide
  refine ⟨hx, ht.1, ht.2.1, ht.2.2, ?_⟩
  rw [(decoding_concatenation_merges.2.2.1 _ ht.1 ht.2.1 ht.2.2).2 _ _ hx]
  rfl

/-- An Integer whose value is written out as zero, which the encoder would leave out, is read as
zero onto an empty node and onto any Integer. -/
theorem explicit_zero_integer_reads_onto {cur : Node}
    (hcur : cur = .empty ∨ ∃ v, cur = .typed (.mk .integer [.int32 v])) :
    ReadsNodeOnto nestingLimit [0xa2, 0x10, 0x02, 0x08, 0x00] cur
      (.typed (.mk .integer [.int32 0])) := by
  -- the message: field 1 as a varint, then the value zero
  have hfield : ∀ v, ReadsFields (nestingLimit - 1) .integer [0x08, 0x00] [.int32 v] [.int32 0] := by
    intro v
    show ReadsFields (nestingLimit - 1) .integer (writeKey 1 .varint ++ writeVarint 0)
      ([] ++ [.int32 v]) ([] ++ [.int32 0])
    refine ReadsFields.field
      (rfl : Kind.integer.fields[([] : List Field).length]? = some ⟨1, "ival", .int32⟩)
      (by decide) fun fuel tail _ => ?_
    simp [mergeValue, readScalar_append 0 tail (by decide), Except.map]
    decide
  show ReadsNodeOnto nestingLimit (writeFramed Kind.integer.tag 2 [0x08, 0x00]) cur
    (.typed (.mk .integer [.int32 0]))
  rcases hcur with rfl | ⟨v, rfl⟩
  · exact ReadsNodeOnto.typed_other (k := .integer) (X := [0x08, 0x00]) (by simp) (hfield 0)
      (by decide) (by decide)
  · exact ReadsNodeOnto.typed_same (k := .integer) (X := [0x08, 0x00]) (hfield v) (by decide)
      (by decide)

/-- The merge is over encodings as the encoder writes them. An unmodelled kind read twice keeps
its later payload, and a sub-message kept as bytes its later bytes, where merging the messages
they encode would join them; an Integer written out as zero after an Integer five is read as
zero, where the later value that is not the default is the five. -/
theorem later_payload_replaces_and_default_overrides :
    Node.decode [0xd2, 0x09, 0x02, 0x08, 0x01] = .ok (.raw 154 [0x08, 0x01]) ∧
    Node.decode [0xd2, 0x09, 0x02, 0x10, 0x02] = .ok (.raw 154 [0x10, 0x02]) ∧
    Node.decode ([0xd2, 0x09, 0x02, 0x08, 0x01] ++ [0xd2, 0x09, 0x02, 0x10, 0x02]) =
      .ok (.raw 154 [0x10, 0x02]) ∧
    Node.decode ([0xc2, 0x08, 0x04, 0x12, 0x02, 0x08, 0x01] ++
        [0xc2, 0x08, 0x04, 0x12, 0x02, 0x10, 0x02]) =
      .ok (.typed (.mk .selectStmt (Kind.selectStmt.blank.set 1 (.bytes (some [0x10, 0x02]))))) ∧
    Node.decode [0xa2, 0x10, 0x02, 0x08, 0x05] = .ok (.typed (.mk .integer [.int32 5])) ∧
    Node.decode [0xa2, 0x10, 0x02, 0x08, 0x00] = .ok (.typed (.mk .integer [.int32 0])) ∧
    Node.decode ([0xa2, 0x10, 0x02, 0x08, 0x05] ++ [0xa2, 0x10, 0x02, 0x08, 0x00]) =
      .ok (.typed (.mk .integer [.int32 0])) := by
  -- every part but the explicit zero is a node's own encoding
  have hfirst : Node.decode [0xd2, 0x09, 0x02, 0x08, 0x01] = .ok (.raw 154 [0x08, 0x01]) :=
    Node.decode_encode (t := .raw 154 [0x08, 0x01]) (by decide) (by decide) (by decide)
  have hselect : Node.decode [0xc2, 0x08, 0x04, 0x12, 0x02, 0x08, 0x01] =
      .ok (.typed (.mk .selectStmt (Kind.selectStmt.blank.set 1 (.bytes (some [0x08, 0x01]))))) :=
    Node.decode_encode
      (t := .typed (.mk .selectStmt (Kind.selectStmt.blank.set 1 (.bytes (some [0x08, 0x01])))))
      (by decide) (by decide) (by decide)
  have hfive : Node.decode [0xa2, 0x10, 0x02, 0x08, 0x05] = .ok (.typed (.mk .integer [.int32 5])) :=
    Node.decode_encode (t := .typed (.mk .integer [.int32 5])) (by decide) (by decide) (by decide)
  refine ⟨hfirst, Node.decode_encode (t := .raw 154 [0x10, 0x02]) (by decide) (by decide)
    (by decide), ?_, ?_, hfive, Node.decode_of_reads (explicit_zero_integer_reads_onto (.inl rfl)),
    Node.decode_append_of_reads hfive (explicit_zero_integer_reads_onto (.inr ⟨5, rfl⟩))⟩
  · exact Node.decode_append_encode (t := .raw 154 [0x10, 0x02]) hfirst (by decide) (by decide)
      (by decide)
  · exact Node.decode_append_encode
      (t := .typed (.mk .selectStmt (Kind.selectStmt.blank.set 1 (.bytes (some [0x10, 0x02])))))
      hselect (by decide) (by decide) (by decide)

end Tree
end PgBinding
