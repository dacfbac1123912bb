import Mathlib
import PgBinding.Tree.Parsed
import PgBinding.Scan.Token
import PgBinding.Proofs.NodeCodec
/-!
# Parse trees and scan results read back from their encoding

A parse tree is read as the grammar's version and its statements, each statement a message of
its own around its node. The decoder's budget of a hundred nested messages is counted from the
top: a statement's own message, then `Node.nesting` for its node. `ParseTree.nesting` is the
deepest statement's count.

A well-formed parse tree within the budget is read back from its encoding, so encoding is
injective on such trees and re-encoding what it decoded gives the same bytes. A scan result
nests only its tokens, so every scan result is read back. A tree one message deeper than the
budget is not: the decoder stops with its recursion limit.
-/
namespace PgBinding
namespace Tree

open Wire

/-! ## Well-formed statements and their nesting -/

/-- Whether a statement's node, when it has one, is a value of the binding's node type. -/
def Statement.wellFormed (s : Statement) : Bool := (s.stmt.map Node.wellFormed).getD true

/-- The messages entered to read a statement as a field: its own, then its node's. -/
def Statement.nesting (s : Statement) : Nat := (s.stmt.map Node.nesting).getD 0 + 1

/-- Whether every statement of a parse tree is well formed. -/
def ParseTree.wellFormed (t : ParseTree) : Bool := t.stmts.all Statement.wellFormed

/-- The deepest nesting among the statements of a parse tree. -/
def ParseTree.nesting (t : ParseTree) : Nat := (t.stmts.map Statement.nesting).foldr max 0

theorem nesting_le_foldr_max {stmts : List Statement} {s : Statement} (hs : s ∈ stmts) :
    s.nesting ≤ (stmts.map Statement.nesting).foldr max 0 := by
  induction stmts with
  | nil => cases hs
  | cons x xs ih =>
    rw [List.map_cons, List.foldr_cons]
    rcases List.mem_cons.1 hs with rfl | hmem
    · exact le_max_left _ _
    · exact le_trans (ih hmem) (le_max_right _ _)

theorem ParseTree.nesting_le {t : ParseTree} {s : Statement} (hs : s ∈ t.stmts) :
    s.nesting ≤ t.nesting :=
  nesting_le_foldr_max hs

theorem Statement.encodedLen_eq (s : Statement) : s.encodedLen = s.encode.length := by
  rcases s with ⟨_ | nd, loc, len⟩ <;>
    simp [Statement.encodedLen, Statement.encode, writeInt32, length_writeScalar,
      length_writeFramed, Node.encodedLen_eq, chunkLen, Nat.add_assoc]

/-! ## Reading a statement -/

section Statement

variable (F depth : Nat)

/-- A statement's node, read one level down from the statement, where its nesting must fit.
`F` is the fuel of the node decoder, fixed for the whole input. -/
theorem Statement.reads_node (nd : Node) (hwf : nd.wellFormed = true) (hnest : nd.nesting ≤ depth)
    (hF : 4 * (writeFramed 1 nd.encodedLen nd.encode).length ≤ F)
    (hlen : (writeFramed 1 nd.encodedLen nd.encode).length < 2 ^ 64) :
    ReadsEntries (Statement.mergeField F depth) (writeFramed 1 nd.encodedLen nd.encode) {}
      { stmt := some nd } := by
  rw [length_writeFramed, Node.encodedLen_eq] at hF hlen
  have hpos := nd.nesting_pos
  have hread := Node.reads_encode nd hwf (depth - 1) (by omega) (by omega)
  rw [writeFramed, List.append_assoc, Node.encodedLen_eq]
  refine ReadsEntries.entry (writeVarint_ne_nil _)
    (fun rest => readKey_writeKey 1 _ rest (by omega) (by omega)) fun tail => ?_
  simp only [Statement.mergeField, Option.getD_none, List.append_assoc]
  rw [mergeNode_framed hread (by omega) (by omega) F (by omega) tail]
  rfl

/-- A statement's position: its location, then its length. -/
theorem Statement.reads_position (stmt : Option Node) (loc len : Int32) :
    ReadsEntries (Statement.mergeField F depth) (writeInt32 2 loc ++ writeInt32 3 len)
      { stmt := stmt } { stmt := stmt, location := loc, length := len } := by
  have hloc : ReadsEntries (Statement.mergeField F depth) (writeInt32 2 loc) { stmt := stmt }
      { stmt := stmt, location := loc } :=
    ReadsEntries.int32 loc (by omega) (by omega)
      (fun tail => by simp [Statement.mergeField, readInt32_append, inField, Except.map])
      (fun h => by rw [h])
  have hlen : ReadsEntries (Statement.mergeField F depth) (writeInt32 3 len)
      { stmt := stmt, location := loc } { stmt := stmt, location := loc, length := len } :=
    ReadsEntries.int32 len (by omega) (by omega)
      (fun tail => by simp [Statement.mergeField, readInt32_append, inField, Except.map])
      (fun h => by rw [h])
  exact hloc.append hlen

/-- A well-formed statement is read back from its body, one message below the level that
holds it. -/
theorem Statement.reads_encode (s : Statement) (hwf : s.wellFormed = true)
    (hnest : s.nesting ≤ depth + 1) (hF : 4 * s.encode.length ≤ F)
    (hlen : s.encode.length < 2 ^ 64) :
    ReadsEntries (Statement.mergeField F depth) s.encode {} s := by
  rcases s with ⟨_ | nd, loc, len⟩
  case none =>
    rw [Statement.encode, List.nil_append]
    exact Statement.reads_position F depth none loc len
  case some =>
    simp only [Statement.wellFormed, Statement.nesting, Option.map_some, Option.getD_some]
      at hwf hnest
    simp only [Statement.encode, List.length_append] at hF hlen ⊢
    rw [List.append_assoc]
    exact (Statement.reads_node F depth nd hwf (by omega) (by omega) (by omega)).append
      (Statement.reads_position F depth (some nd) loc len)

end Statement

/-! ## Reading a parse tree -/

/-- The statements of a parse tree, each as its own framed field. -/
theorem ParseTree.reads_stmts (F depth : Nat) (v : Int32) :
    (stmts acc : List Statement) → (∀ s ∈ stmts, s.wellFormed = true ∧ s.nesting ≤ depth) →
    4 * (stmts.map fun s => writeFramed 2 s.encodedLen s.encode).flatten.length ≤ F →
    (stmts.map fun s => writeFramed 2 s.encodedLen s.encode).flatten.length < 2 ^ 64 →
    ReadsEntries (ParseTree.mergeField F depth)
      (stmts.map fun s => writeFramed 2 s.encodedLen s.encode).flatten
      { version := v, stmts := acc } { version := v, stmts := acc ++ stmts }
  | [], acc, _, _, _ => by
    rw [List.append_nil]
    exact ReadsEntries.nil _
  | s :: stmts, acc, hall, hF, hlen => by
    rw [List.map_cons, List.flatten_cons] at hF hlen ⊢
    rw [List.length_append, length_writeFramed, ← Statement.encodedLen_eq] at hF hlen
    obtain ⟨hwf, hnest⟩ := hall s (List.mem_cons_self ..)
    have hpos : 0 < s.nesting := Nat.succ_pos _
    have hread := Statement.reads_encode F (depth - 1) s hwf (by omega)
      (by rw [← Statement.encodedLen_eq]; omega) (by rw [← Statement.encodedLen_eq]; omega)
    have hone : ReadsEntries (ParseTree.mergeField F depth)
        (writeFramed 2 s.encodedLen s.encode) { version := v, stmts := acc }
        { version := v, stmts := acc ++ [s] } := by
      rw [writeFramed, List.append_assoc, Statement.encodedLen_eq]
      refine ReadsEntries.entry (writeVarint_ne_nil _)
        (fun rest => readKey_writeKey 2 _ rest (by omega) (by omega)) fun tail => ?_
      simp only [ParseTree.mergeField, List.append_assoc]
      rw [readNested_append depth {} s _ s.encode tail (by omega)
        (by rw [← Statement.encodedLen_eq]; omega) hread]
      rfl
    have hmore := ParseTree.reads_stmts F depth v stmts (acc ++ [s])
      (fun x hx => hall x (List.mem_cons_of_mem _ hx)) (by omega) (by omega)
    rw [List.append_assoc, List.singleton_append] at hmore
    exact hone.append hmore

theorem ParseTree.reads_encode (F depth : Nat) (t : ParseTree) (hwf : t.wellFormed = true)
    (hnest : t.nesting ≤ depth) (hF : 4 * t.encode.length ≤ F)
    (hlen : t.encode.length < 2 ^ 64) :
    ReadsEntries (ParseTree.mergeField F depth) t.encode {} t := by
  rcases t with ⟨v, stmts⟩
  simp only [ParseTree.encode, List.length_append] at hF hlen ⊢
  have hversion : ReadsEntries (ParseTree.mergeField F depth) (writeInt32 1 v) {}
      { version := v } :=
    ReadsEntries.int32 v (by omega) (by omega)
      (fun tail => by simp [ParseTree.mergeField, readInt32_append, inField, Except.map])
      (fun h => by rw [h])
  have hall : ∀ s ∈ stmts, s.wellFormed = true ∧ s.nesting ≤ depth := by
    intro s hs
    refine ⟨List.all_eq_true.1 hwf s hs, le_trans (ParseTree.nesting_le (t := ⟨v, stmts⟩) hs) hnest⟩
  have hstmts := ParseTree.reads_stmts F depth v stmts [] hall (by omega) (by omega)
  rw [List.nil_append] at hstmts
  exact hversion.append hstmts

/-- Only the empty tree has an empty encoding: a version other than zero and every statement
write something. -/
theorem ParseTree.encode_eq_nil {t : ParseTree} (h : t.encode = []) : t = {} := by
  rcases t with ⟨v, stmts⟩
  rw [ParseTree.encode, List.append_eq_nil_iff, List.flatten_eq_nil_iff] at h
  obtain ⟨hv, hstmts⟩ := h
  have hnil : stmts = [] := by
    rcases stmts with _ | ⟨s, _⟩
    · rfl
    · exact absurd (hstmts _ (List.mem_map_of_mem (List.mem_cons_self ..))) (writeFramed_ne_nil _ _ _)
  have hv0 : v = 0 := writeInt32_eq_nil hv
  rw [hv0, hnil]

/-- A well-formed parse tree within the decoder's nesting budget decodes to itself. -/
theorem ParseTree.decode_encode (t : ParseTree) (hwf : t.wellFormed = true)
    (hnest : t.nesting ≤ nestingLimit) (hlen : t.encode.length < 2 ^ 64) :
    ParseTree.decode t.encode = .ok t := by
  unfold ParseTree.decode
  by_cases hempty : t.encode.isEmpty
  · rw [if_pos hempty, ParseTree.encode_eq_nil (List.isEmpty_iff.1 hempty)]
  · -- the node decoder's fuel is fixed by the whole input, four units an octet and more
    have hread := ParseTree.reads_encode (fuelFor t.encode) nestingLimit t hwf hnest
      (by unfold fuelFor; omega) hlen
    rw [if_neg hempty, hread.readFields_eq]
    rfl

end Tree

/-! ## Scan results -/

namespace Scan

open Wire

theorem length_writeInt32_le (n : Nat) (v : Int32) : (writeInt32 n v).length ≤ 20 := by
  rw [writeInt32, length_writeScalar, scalarLen]
  have := varintLen_le (n * 8 + WireType.varint.code)
  have := varintLen_le (ofInt32 v)
  split <;> omega

theorem Token.length_encode_le (t : Token) : t.encode.length ≤ 80 := by
  simp only [Token.encode, List.length_append]
  have := length_writeInt32_le 1 t.start
  have := length_writeInt32_le 2 t.stop
  have := length_writeInt32_le 4 t.token
  have := length_writeInt32_le 5 t.keywordKind
  omega

theorem Token.reads_encode (depth : Nat) (t : Token) :
    ReadsEntries (Token.mergeField depth) t.encode {} t := by
  rcases t with ⟨start, stop, token, kind⟩
  have hstart : ReadsEntries (Token.mergeField depth) (writeInt32 1 start) {}
      { start := start } :=
    ReadsEntries.int32 start (by omega) (by omega)
      (fun tail => by simp [Token.mergeField, readInt32_append, inField, Except.map])
      (fun h => by rw [h])
  have hstop : ReadsEntries (Token.mergeField depth) (writeInt32 2 stop) { start := start }
      { start := start, stop := stop } :=
    ReadsEntries.int32 stop (by omega) (by omega)
      (fun tail => by simp [Token.mergeField, readInt32_append, inField, Except.map])
      (fun h => by rw [h])
  have htoken : ReadsEntries (Token.mergeField depth) (writeInt32 4 token)
      { start := start, stop := stop } { start := start, stop := stop, token := token } :=
    ReadsEntries.int32 token (by omega) (by omega)
      (fun tail => by simp [Token.mergeField, readInt32_append, inField, Except.map])
      (fun h => by rw [h])
  have hkind : ReadsEntries (Token.mergeField depth) (writeInt32 5 kind)
      { start := start, stop := stop, token := token }
      { start := start, stop := stop, token := token, keywordKind := kind } :=
    ReadsEntries.int32 kind (by omega) (by omega)
      (fun tail => by simp [Token.mergeField, readInt32_append, inField, Except.map])
      (fun h => by rw [h])
  exact ((hstart.append hstop).append htoken).append hkind

/-- The tokens of a scan result, each as its own framed field. -/
theorem Scanned.reads_tokens (depth : Nat) (hd : depth ≠ 0) (v : Int32) :
    (tokens acc : List Token) →
    ReadsEntries (Scanned.mergeField depth) (tokens.map fun t => writeChunk 2 t.encode).flatten
      { version := v, tokens := acc } { version := v, tokens := acc ++ tokens }
  | [], acc => by
    rw [List.append_nil]
    exact ReadsEntries.nil _
  | t :: tokens, acc => by
    rw [List.map_cons, List.flatten_cons]
    have hshort : t.encode.length < 2 ^ 64 := by have := t.length_encode_le; omega
    have hone : ReadsEntries (Scanned.mergeField depth) (writeChunk 2 t.encode)
        { version := v, tokens := acc } { version := v, tokens := acc ++ [t] } := by
      rw [writeChunk, writeFramed, List.append_assoc]
      refine ReadsEntries.entry (writeVarint_ne_nil _)
        (fun rest => readKey_writeKey 2 _ rest (by omega) (by omega)) fun tail => ?_
      simp only [Scanned.mergeField, List.append_assoc]
      rw [readNested_append depth {} t _ t.encode tail hd hshort (Token.reads_encode _ t)]
      rfl
    have hmore := Scanned.reads_tokens depth hd v tokens (acc ++ [t])
    rw [List.append_assoc, List.singleton_append] at hmore
    exact hone.append hmore

theorem Scanned.encode_eq_nil {s : Scanned} (h : s.encode = []) : s = {} := by
  rcases s with ⟨v, tokens⟩
  rw [Scanned.encode, List.append_eq_nil_iff, List.flatten_eq_nil_iff] at h
  obtain ⟨hv, htokens⟩ := h
  have hnil : tokens = [] := by
    rcases tokens with _ | ⟨t, _⟩
    · rfl
    · exact absurd (htokens _ (List.mem_map_of_mem (List.mem_cons_self ..))) (writeFramed_ne_nil _ _ _)
  have hv0 : v = 0 := writeInt32_eq_nil hv
  rw [hv0, hnil]

theorem Scanned.reads_encode (depth : Nat) (hd : depth ≠ 0) (s : Scanned) :
    ReadsEntries (Scanned.mergeField depth) s.encode {} s := by
  rcases s with ⟨v, tokens⟩
  have hversion : ReadsEntries (Scanned.mergeField depth) (writeInt32 1 v) {} { version := v } :=
    ReadsEntries.int32 v (by omega) (by omega)
      (fun tail => by simp [Scanned.mergeField, readInt32_append, inField, Except.map])
      (fun h => by rw [h])
  have htokens := Scanned.reads_tokens depth hd v tokens []
  rw [List.nil_append] at htokens
  exact hversion.append htokens

/-- Every scan result decodes to itself. -/
theorem Scanned.decode_encode (s : Scanned) : Scanned.decode s.encode = .ok s := by
  unfold Scanned.decode
  by_cases hempty : s.encode.isEmpty
  · rw [if_pos hempty, Scanned.encode_eq_nil (List.isEmpty_iff.1 hempty)]
  · rw [if_neg hempty, (Scanned.reads_encode nestingLimit (by decide) s).readFields_eq]
    rfl

end Scan

/-! ## The round trip of both payloads -/

namespace Tree

open Wire

/-- A well-formed parse tree within the decoder's nesting budget decodes to itself, and the
length prefix of every node is the length of its encoding; so encoding is injective on such
trees, and re-encoding what their encodings decode to gives the same bytes. Every scan result
decodes to itself. -/
theorem payloads_round_trip :
    (∀ t : ParseTree, t.wellFormed = true → t.nesting ≤ nestingLimit →
      t.encode.length < 2 ^ 64 → ParseTree.decode t.encode = .ok t) ∧
    (∀ nd : Node, nd.encodedLen = nd.encode.length) ∧
    (∀ t₁ t₂ : ParseTree, t₁.wellFormed = true → t₁.nesting ≤ nestingLimit →
      t₁.encode.length < 2 ^ 64 → t₂.wellFormed = true → t₂.nesting ≤ nestingLimit →
      t₂.encode.length < 2 ^ 64 → t₁.encode = t₂.encode → t₁ = t₂) ∧
    (∀ t : ParseTree, t.wellFormed = true → t.nesting ≤ nestingLimit →
      t.encode.length < 2 ^ 64 → (ParseTree.decode t.encode).map ParseTree.encode = .ok t.encode) ∧
    (∀ s : Scan.Scanned, Scan.Scanned.decode s.encode = .ok s) := by
  refine ⟨ParseTree.decode_encode, Node.encodedLen_eq, ?_, ?_, Scan.Scanned.decode_encode⟩
  · intro t₁ t₂ hwf₁ hnest₁ hlen₁ hwf₂ hnest₂ hlen₂ heq
    have h₁ := ParseTree.decode_encode t₁ hwf₁ hnest₁ hlen₁
    have h₂ := ParseTree.decode_encode t₂ hwf₂ hnest₂ hlen₂
    rw [heq, h₂] at h₁
    exact (Except.ok.inj h₁).symm
  · intro t hwf hnest hlen
    rw [ParseTree.decode_encode t hwf hnest hlen]
    rfl

/-- One statement holding the integer constant 1. -/
def sampleTree : ParseTree :=
  { version := 170005
    stmts := [{ stmt := some (.typed (.mk .aConst
      [.choice (some (1, .mk .integer [.int32 1])), .bool false, .int32 7])), length := 8 }] }

theorem sample_tree_round_trips :
    ParseTree.decode sampleTree.encode = .ok sampleTree ∧
      (ParseTree.decode sampleTree.encode).map ParseTree.encode = .ok sampleTree.encode :=
  ⟨payloads_round_trip.1 sampleTree (by decide) (by decide) (by decide),
    payloads_round_trip.2.2.2.1 sampleTree (by decide) (by decide) (by decide)⟩

/-- `m + 1` lists, each the only item of the list around it. -/
def listChain : Nat → Node
  | 0 => .typed (.mk .list [.nodes []])
  | m + 1 => .typed (.mk .list [.nodes [listChain m]])

/-- One statement of fifty nested lists: one message deeper than the decoder's budget. -/
def deepListTree : ParseTree := { stmts := [{ stmt := some (listChain 49) }] }

/-- A well-formed tree one message deeper than the budget does not decode: the decoder stops at
its recursion limit. -/
theorem deep_list_tree_hits_recursion_limit :
    deepListTree.wellFormed = true ∧ deepListTree.nesting = nestingLimit + 1 ∧
      deepListTree.encode.length < 2 ^ 64 ∧
      (match ParseTree.decode deepListTree.encode with
        | .ok _ => none
        | .error e => some e.description) = some "recursion limit reached" := by
  decide +kernel

end Tree

end PgBinding
