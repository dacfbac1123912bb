import Mathlib
import PgBinding.Proofs.NodeCodec
import PgBinding.Proofs.Precedence
/-!
# Reading is unaffected by what follows

A reader of the wire format that succeeds on some bytes succeeds the same way on those bytes
followed by anything, leaving the tail over, and with any more fuel: it looks no further than
the bytes it consumes, and fuel only bounds how long it may run. For the readers of single
values this is a lemma each; for the node decoder it is one induction on the fuel that its
mutual recursion shares (`mergeKind_append_of_ok` and its companions).

With it, decoding a concatenation reads the fields of the first part as they read alone and then
goes on from the node they built (`Node.decode_append`).
-/
namespace PgBinding

namespace Wire

/-! ## Readers of single values -/

theorem readVarint_go_append_of_ok {i shift acc : Nat} {bs : Bytes} {v : Nat} {r : Bytes}
    (h : readVarint.go i shift acc bs = .ok (v, r)) (tail : Bytes) :
    readVarint.go i shift acc (bs ++ tail) = .ok (v, r ++ tail) := by
  induction bs generalizing i shift acc with
  | nil => cases h
  | cons b rest ih =>
    rw [List.cons_append]
    unfold readVarint.go at h ⊢
    split_ifs at h ⊢
    · cases h
    · cases h
      rfl
    · cases h
    · exact ih h

theorem readVarint_append_of_ok {bs : Bytes} {v : Nat} {r : Bytes}
    (h : readVarint bs = .ok (v, r)) (tail : Bytes) :
    readVarint (bs ++ tail) = .ok (v, r ++ tail) :=
  readVarint_go_append_of_ok h tail

theorem readKey_append_of_ok {bs : Bytes} {n : Nat} {wt : WireType} {r : Bytes}
    (h : readKey bs = .ok ((n, wt), r)) (tail : Bytes) :
    readKey (bs ++ tail) = .ok ((n, wt), r ++ tail) := by
  rw [readKey, bind_eq_ok_iff] at h
  obtain ⟨⟨key, rest⟩, hv, h⟩ := h
  rw [readKey, readVarint_append_of_ok hv tail]
  dsimp only [bind, Except.bind] at h ⊢
  -- the checks on the key do not look at the bytes after it
  split_ifs at h ⊢ with hkey hzero
  · cases h
  · cases hwt : WireType.ofCode? (key % 8) <;> rw [hwt] at h <;> cases h
  · cases hwt : WireType.ofCode? (key % 8) with
    | none => rw [hwt] at h; cases h
    | some wt' =>
      rw [hwt] at h
      simp only [Except.ok.injEq, Prod.mk.injEq] at h ⊢
      exact ⟨h.1, by rw [h.2]⟩

theorem readChunk_append_of_ok {bs chunk r : Bytes} (h : readChunk bs = .ok (chunk, r))
    (tail : Bytes) : readChunk (bs ++ tail) = .ok (chunk, r ++ tail) := by
  rw [readChunk, bind_eq_ok_iff] at h
  obtain ⟨⟨len, rest⟩, hv, h⟩ := h
  rw [readChunk, readVarint_append_of_ok hv tail]
  dsimp only [bind, Except.bind] at h ⊢
  split_ifs at h with hlen
  · cases h
  simp only [Except.ok.injEq, Prod.mk.injEq] at h
  obtain ⟨rfl, rfl⟩ := h
  rw [if_neg (by simp; omega), List.take_append_of_le_length (by omega),
    List.drop_append_of_le_length (by omega)]

theorem readBytes_append_of_ok {wt : WireType} {bs chunk r : Bytes}
    (h : readBytes wt bs = .ok (chunk, r)) (tail : Bytes) :
    readBytes wt (bs ++ tail) = .ok (chunk, r ++ tail) := by
  rw [readBytes, bind_eq_ok_iff] at h
  obtain ⟨⟨⟩, hwt, h⟩ := h
  rw [readBytes, hwt]
  exact readChunk_append_of_ok h tail

theorem readText_append_of_ok {wt : WireType} {bs : Bytes} {s : String} {r : Bytes}
    (h : readText wt bs = .ok (s, r)) (tail : Bytes) :
    readText wt (bs ++ tail) = .ok (s, r ++ tail) := by
  rw [readText, bind_eq_ok_iff] at h
  obtain ⟨⟨⟩, hwt, h⟩ := h
  rw [bind_eq_ok_iff] at h
  obtain ⟨⟨chunk, rest⟩, hchunk, h⟩ := h
  rw [readText, hwt]
  dsimp only [bind, Except.bind]
  rw [readChunk_append_of_ok hchunk tail]
  dsimp only at h ⊢
  -- the text is the chunk's, which the tail does not change
  cases hdec : Utf8.decode chunk with
  | error e => rw [hdec] at h; cases h
  | ok s' =>
    rw [hdec] at h
    simp only [Except.ok.injEq, Prod.mk.injEq] at h ⊢
    exact ⟨h.1, by rw [h.2]⟩

theorem readScalar_append_of_ok {wt : WireType} {bs : Bytes} {v : Nat} {r : Bytes}
    (h : readScalar wt bs = .ok (v, r)) (tail : Bytes) :
    readScalar wt (bs ++ tail) = .ok (v, r ++ tail) := by
  rw [readScalar, bind_eq_ok_iff] at h
  obtain ⟨⟨⟩, hwt, h⟩ := h
  rw [readScalar, hwt]
  exact readVarint_append_of_ok h tail

/-- Entering a length-delimited body: the limit is counted from the end, so a tail raises it by
its own length. -/
theorem enterBody_append_of_ok {bs : Bytes} {limit : Nat} {r : Bytes}
    (h : enterBody bs = .ok (limit, r)) (tail : Bytes) :
    enterBody (bs ++ tail) = .ok (limit + tail.length, r ++ tail) := by
  rw [enterBody, bind_eq_ok_iff] at h
  obtain ⟨⟨len, rest⟩, hv, h⟩ := h
  rw [enterBody, readVarint_append_of_ok hv tail]
  dsimp only [bind, Except.bind] at h ⊢
  split_ifs at h with hlen
  · cases h
  simp only [Except.ok.injEq, Prod.mk.injEq] at h
  obtain ⟨rfl, rfl⟩ := h
  rw [if_neg (by simp; omega)]
  simp only [List.length_append, Except.ok.injEq, Prod.mk.injEq, and_true]
  omega

/-! ## Skipping unknown fields -/

mutual
theorem skipValue_append_of_ok : (fuel depth : Nat) → (wt : WireType) → (number : Nat) →
    (bs r : Bytes) → skipValue fuel depth wt number bs = .ok r → ∀ fuel', fuel ≤ fuel' →
    ∀ tail, skipValue fuel' depth wt number (bs ++ tail) = .ok (r ++ tail)
  | 0, _, _, _, _, _, h, _, _, _ => by cases h
  | fuel + 1, depth, wt, number, bs, r, h, fuel', hle, tail => by
    obtain ⟨g, rfl⟩ : ∃ g, fuel' = g + 1 := ⟨fuel' - 1, by omega⟩
    -- past the depth check, each wire type is skipped by its own reader
    cases wt with
    | varint =>
      simp only [skipValue] at h ⊢
      split_ifs at h ⊢
      · cases h
      obtain ⟨⟨v, r'⟩, hv, rfl⟩ := map_eq_ok_iff.1 h
      simp [readVarint_append_of_ok hv tail, Except.map]
    | fixed64 =>
      simp only [skipValue] at h ⊢
      split_ifs at h with hd hlen
      · cases h
      · cases h
      cases h
      rw [if_neg hd, if_neg (by simp; omega), List.drop_append_of_le_length (by omega)]
    | lengthDelimited =>
      simp only [skipValue] at h ⊢
      split_ifs at h ⊢
      · cases h
      obtain ⟨⟨c, r'⟩, hc, rfl⟩ := map_eq_ok_iff.1 h
      simp [readChunk_append_of_ok hc tail, Except.map]
    | startGroup =>
      simp only [skipValue] at h ⊢
      split_ifs at h ⊢
      · cases h
      exact skipGroup_append_of_ok fuel depth number bs r h g (by omega) tail
    | endGroup =>
      simp only [skipValue] at h
      split_ifs at h <;> cases h
    | fixed32 =>
      simp only [skipValue] at h ⊢
      split_ifs at h with hd hlen
      · cases h
      · cases h
      cases h
      rw [if_neg hd, if_neg (by simp; omega), List.drop_append_of_le_length (by omega)]
termination_by structural fuel => fuel

theorem skipGroup_append_of_ok : (fuel depth number : Nat) → (bs r : Bytes) →
    skipGroup fuel depth number bs = .ok r → ∀ fuel', fuel ≤ fuel' →
    ∀ tail, skipGroup fuel' depth number (bs ++ tail) = .ok (r ++ tail)
  | 0, _, _, _, _, h, _, _, _ => by cases h
  | fuel + 1, depth, number, bs, r, h, fuel', hle, tail => by
    obtain ⟨g, rfl⟩ : ∃ g, fuel' = g + 1 := ⟨fuel' - 1, by omega⟩
    rw [skipGroup] at h ⊢
    split at h
    · cases h
    · rename_i inner iwt rest hkey
      rw [readKey_append_of_ok hkey tail]
      dsimp only at h ⊢
      split_ifs at h ⊢
      · cases h
        rfl
      · cases h
      · split at h
        · cases h
        · rename_i rest' hskip
          rw [skipValue_append_of_ok fuel (depth - 1) iwt inner rest rest' hskip g (by omega) tail]
          exact skipGroup_append_of_ok fuel depth number rest' r h g (by omega) tail
termination_by structural fuel => fuel
end

theorem skipField_append_of_ok {depth : Nat} {wt : WireType} {number : Nat} {bs r : Bytes}
    (h : skipField depth wt number bs = .ok r) (tail : Bytes) :
    skipField depth wt number (bs ++ tail) = .ok (r ++ tail) :=
  skipValue_append_of_ok _ depth wt number bs r h _ (by simp) tail

end Wire

namespace Tree

open Wire

/-- A reader whose result is mapped keeps its frame when the map leaves the rest of the input
alone. -/
theorem map_append_of_ok {α β : Type} {g : α × Bytes → β × Bytes}
    {x y : Except DecodeError (α × Bytes)} {b : β} {r tail : Bytes} (h : x.map g = .ok (b, r))
    (hg : ∀ a r', g (a, r' ++ tail) = ((g (a, r')).1, (g (a, r')).2 ++ tail))
    (hxy : ∀ a r', x = .ok (a, r') → y = .ok (a, r' ++ tail)) :
    y.map g = .ok (b, r ++ tail) := by
  obtain ⟨⟨a, r'⟩, hx, heq⟩ := map_eq_ok_iff.1 h
  rw [hxy a r' hx]
  show Except.ok (g (a, r' ++ tail)) = _
  rw [hg, heq]

/-! ## The node decoder

One statement per function of the decoder's mutual recursion, proved by the same recursion on
the fuel: a successful read in front of any tail, with any more fuel, reads the same and leaves
the tail over. The loops over fields carry a limit counted from the end of the input, which the
tail raises by its own length. -/

mutual
theorem mergeFields_append_of_ok : (fuel depth : Nat) → (k : Kind) → (fs : List Field) →
    (limit : Nat) → (bs : Bytes) → (fs' : List Field) → (r : Bytes) →
    mergeFields fuel depth k fs limit bs = .ok (fs', r) → ∀ fuel', fuel ≤ fuel' → ∀ tail,
    mergeFields fuel' depth k fs (limit + tail.length) (bs ++ tail) = .ok (fs', r ++ tail)
  | 0, _, _, _, _, _, _, _, h, _, _, _ => by rw [mergeFields] at h; cases h
  | fuel + 1, depth, k, fs, limit, bs, fs', r, h, fuel', hle, tail => by
    obtain ⟨g, rfl⟩ : ∃ g, fuel' = g + 1 := ⟨fuel' - 1, by omega⟩
    rcases mergeFields_eq_ok h with ⟨hend, rfl, rfl⟩ |
      ⟨hlong, n, wt, rest, fs₁, rest₁, hkey, hfield, hrest⟩
    · -- at the limit, which the tail raises by its own length
      have hlen : (r ++ tail).length = limit + tail.length := by simp [hend]
      rw [← hlen]
      exact mergeFields_at_limit g fs' (r ++ tail)
    · rw [mergeFields_of_read (by simp; omega) (readKey_append_of_ok hkey tail)
        (mergeField_append_of_ok fuel depth k fs n wt rest fs₁ rest₁ hfield g (by omega) tail)]
      exact mergeFields_append_of_ok fuel depth k fs₁ limit rest₁ fs' r hrest g (by omega) tail
termination_by structural fuel => fuel

theorem mergeField_append_of_ok : (fuel depth : Nat) → (k : Kind) → (fs : List Field) →
    (n : Nat) → (wt : WireType) → (bs : Bytes) → (fs' : List Field) → (r : Bytes) →
    mergeField fuel depth k fs n wt bs = .ok (fs', r) → ∀ fuel', fuel ≤ fuel' → ∀ tail,
    mergeField fuel' depth k fs n wt (bs ++ tail) = .ok (fs', r ++ tail)
  | 0, _, _, _, _, _, _, _, _, h, _, _, _ => by rw [mergeField] at h; cases h
  | fuel + 1, depth, k, fs, n, wt, bs, fs', r, h, fuel', hle, tail => by
    obtain ⟨g, rfl⟩ : ∃ g, fuel' = g + 1 := ⟨fuel' - 1, by omega⟩
    rcases mergeField_eq_ok h with ⟨hunknown, rfl, hskip⟩ | ⟨i, spec, v, hidx, hspec, hval, rfl⟩
    · rw [mergeField_of_unknown hunknown, skipField_append_of_ok hskip tail]
      rfl
    · exact mergeField_eq hidx hspec
        (mergeValue_append_of_ok fuel depth spec.type _ n wt bs v r hval g (by omega) tail)
termination_by structural fuel => fuel

theorem mergeValue_append_of_ok : (fuel depth : Nat) → (ty : FieldType) → (cur : Field) →
    (n : Nat) → (wt : WireType) → (bs : Bytes) → (v : Field) → (r : Bytes) →
    mergeValue fuel depth ty cur n wt bs = .ok (v, r) → ∀ fuel', fuel ≤ fuel' → ∀ tail,
    mergeValue fuel' depth ty cur n wt (bs ++ tail) = .ok (v, r ++ tail)
  | 0, _, _, _, _, _, _, _, _, h, _, _, _ => by rw [mergeValue] at h; cases h
  | fuel + 1, depth, ty, cur, n, wt, bs, v, r, h, fuel', hle, tail => by
    obtain ⟨g, rfl⟩ : ∃ g, fuel' = g + 1 := ⟨fuel' - 1, by omega⟩
    -- the equations split on the value read into, so unfold the whole definition
    rw [mergeValue.eq_def] at h ⊢
    dsimp only at h ⊢
    cases ty with
    | int32 =>
      exact map_append_of_ok h (fun _ _ => rfl) (fun _ _ hx => readScalar_append_of_ok hx tail)
    | uint32 =>
      exact map_append_of_ok h (fun _ _ => rfl) (fun _ _ hx => readScalar_append_of_ok hx tail)
    | bool =>
      exact map_append_of_ok h (fun _ _ => rfl) (fun _ _ hx => readScalar_append_of_ok hx tail)
    | text =>
      exact map_append_of_ok h (fun _ _ => rfl) (fun _ _ hx => readText_append_of_ok hx tail)
    | bytes =>
      exact map_append_of_ok h (fun _ _ => rfl) (fun _ _ hx => readBytes_append_of_ok hx tail)
    | node =>
      exact map_append_of_ok h (fun _ _ => rfl) (fun _ _ hx =>
        mergeNode_append_of_ok fuel depth _ wt bs _ _ hx g (by omega) tail)
    | nodes =>
      dsimp only at h ⊢
      split at h
      · cases h
      · exact map_append_of_ok h (fun _ _ => rfl) (fun _ _ hx =>
          mergeNode_append_of_ok fuel depth _ wt bs _ _ hx g (by omega) tail)
    | message k =>
      exact map_append_of_ok h (fun _ _ => rfl) (fun _ _ hx =>
        mergeMessage_append_of_ok fuel depth k _ wt bs _ _ hx g (by omega) tail)
    | choice alts =>
      dsimp only at h ⊢
      split at h
      · cases h
      · exact map_append_of_ok h (fun _ _ => rfl) (fun _ _ hx =>
          mergeMessage_append_of_ok fuel depth _ _ wt bs _ _ hx g (by omega) tail)
termination_by structural fuel => fuel

theorem mergeMessage_append_of_ok : (fuel depth : Nat) → (k : Kind) → (fs : List Field) →
    (wt : WireType) → (bs : Bytes) → (fs' : List Field) → (r : Bytes) →
    mergeMessage fuel depth k fs wt bs = .ok (fs', r) → ∀ fuel', fuel ≤ fuel' → ∀ tail,
    mergeMessage fuel' depth k fs wt (bs ++ tail) = .ok (fs', r ++ tail)
  | 0, _, _, _, _, _, _, _, h, _, _, _ => by rw [mergeMessage] at h; cases h
  | fuel + 1, depth, k, fs, wt, bs, fs', r, h, fuel', hle, tail => by
    obtain ⟨g, rfl⟩ : ∃ g, fuel' = g + 1 := ⟨fuel' - 1, by omega⟩
    obtain ⟨rfl, hd, limit, rest, hbody, hfields⟩ := mergeMessage_eq_ok h
    rw [mergeMessage_of_body hd (enterBody_append_of_ok hbody tail)]
    exact mergeFields_append_of_ok fuel (depth - 1) k fs limit rest fs' r hfields g (by omega) tail
termination_by structural fuel => fuel

theorem mergeNode_append_of_ok : (fuel depth : Nat) → (nd : Node) → (wt : WireType) →
    (bs : Bytes) → (nd' : Node) → (r : Bytes) →
    mergeNode fuel depth nd wt bs = .ok (nd', r) → ∀ fuel', fuel ≤ fuel' → ∀ tail,
    mergeNode fuel' depth nd wt (bs ++ tail) = .ok (nd', r ++ tail)
  | 0, _, _, _, _, _, _, h, _, _, _ => by rw [mergeNode] at h; cases h
  | fuel + 1, depth, nd, wt, bs, nd', r, h, fuel', hle, tail => by
    obtain ⟨g, rfl⟩ : ∃ g, fuel' = g + 1 := ⟨fuel' - 1, by omega⟩
    obtain ⟨rfl, hd, limit, rest, hbody, hfields⟩ := mergeNode_eq_ok h
    rw [mergeNode_of_body hd (enterBody_append_of_ok hbody tail)]
    exact mergeNodeFields_append_of_ok fuel (depth - 1) nd limit rest nd' r hfields g (by omega)
      tail
termination_by structural fuel => fuel

theorem mergeNodeFields_append_of_ok : (fuel depth : Nat) → (nd : Node) → (limit : Nat) →
    (bs : Bytes) → (nd' : Node) → (r : Bytes) →
    mergeNodeFields fuel depth nd limit bs = .ok (nd', r) → ∀ fuel', fuel ≤ fuel' → ∀ tail,
    mergeNodeFields fuel' depth nd (limit + tail.length) (bs ++ tail) = .ok (nd', r ++ tail)
  | 0, _, _, _, _, _, _, h, _, _, _ => by rw [mergeNodeFields] at h; cases h
  | fuel + 1, depth, nd, limit, bs, nd', r, h, fuel', hle, tail => by
    obtain ⟨g, rfl⟩ : ∃ g, fuel' = g + 1 := ⟨fuel' - 1, by omega⟩
    rcases mergeNodeFields_eq_ok h with ⟨hend, rfl, rfl⟩ |
      ⟨hlong, n, wt, rest, nd₁, rest₁, hkey, hkind, hrest⟩
    · -- at the limit, which the tail raises by its own length
      have hlen : (r ++ tail).length = limit + tail.length := by simp [hend]
      rw [← hlen]
      exact mergeNodeFields_at_limit g depth nd' (r ++ tail)
    · rw [mergeNodeFields_of_read (by simp; omega) (readKey_append_of_ok hkey tail)
        (mergeKind_append_of_ok fuel depth nd n wt rest nd₁ rest₁ hkind g (by omega) tail)]
      exact mergeNodeFields_append_of_ok fuel depth nd₁ limit rest₁ nd' r hrest g (by omega) tail
termination_by structural fuel => fuel

theorem mergeKind_append_of_ok : (fuel depth : Nat) → (nd : Node) → (n : Nat) →
    (wt : WireType) → (bs : Bytes) → (nd' : Node) → (r : Bytes) →
    mergeKind fuel depth nd n wt bs = .ok (nd', r) → ∀ fuel', fuel ≤ fuel' → ∀ tail,
    mergeKind fuel' depth nd n wt (bs ++ tail) = .ok (nd', r ++ tail)
  | 0, _, _, _, _, _, _, _, h, _, _, _ => by rw [mergeKind] at h; cases h
  | fuel + 1, depth, nd, n, wt, bs, nd', r, h, fuel', hle, tail => by
    obtain ⟨g, rfl⟩ : ∃ g, fuel' = g + 1 := ⟨fuel' - 1, by omega⟩
    rw [mergeKind] at h ⊢
    split at h
    · dsimp only at h ⊢
      exact map_append_of_ok h (fun _ _ => rfl) (fun _ _ hx =>
        mergeMessage_append_of_ok fuel depth _ _ wt bs _ _ hx g (by omega) tail)
    · exact map_append_of_ok h (fun _ _ => rfl) (fun _ _ hx => readBytes_append_of_ok hx tail)
termination_by structural fuel => fuel
end

/-! ## Reading on past the end of a part -/

/-- A loop over a node's fields that succeeds stops with exactly its limit left. -/
theorem mergeNodeFields_rest_length {depth : Nat} :
    ∀ {fuel : Nat} {nd : Node} {limit : Nat} {bs : Bytes} {nd' : Node} {r : Bytes},
      mergeNodeFields fuel depth nd limit bs = .ok (nd', r) → r.length = limit
  | 0, _, _, _, _, _, h => by rw [mergeNodeFields] at h; cases h
  | fuel + 1, nd, limit, bs, nd', r, h => by
    rcases mergeNodeFields_eq_ok h with ⟨hend, -, rfl⟩ | ⟨-, _, _, _, _, _, -, -, hrest⟩
    · exact hend
    · exact mergeNodeFields_rest_length hrest

/-- A loop over a node's fields that reads `bs` down to `limit`, run with a lower limit and at
least as much fuel, reads the same fields and then goes on from the node they built, with at
least the extra fuel left. -/
theorem mergeNodeFields_run_past {depth limit limit' : Nat} (hlim : limit' ≤ limit) :
    ∀ {fuel : Nat} {nd : Node} {bs : Bytes} {nd' : Node} {r : Bytes},
      mergeNodeFields fuel depth nd limit bs = .ok (nd', r) → ∀ fuel', fuel ≤ fuel' →
      ∃ g, fuel' - fuel < g ∧
        mergeNodeFields fuel' depth nd limit' bs = mergeNodeFields g depth nd' limit' r
  | 0, _, _, _, _, h, _, _ => by rw [mergeNodeFields] at h; cases h
  | fuel + 1, nd, bs, nd', r, h, fuel', hle => by
    obtain ⟨g, rfl⟩ : ∃ g, fuel' = g + 1 := ⟨fuel' - 1, by omega⟩
    rcases mergeNodeFields_eq_ok h with ⟨-, rfl, rfl⟩ |
      ⟨hlong, n, wt, rest, nd₁, rest₁, hkey, hkind, hrest⟩
    · -- the first loop stops here, where the second goes on
      exact ⟨g + 1, by omega, rfl⟩
    · -- one kind entry read, the same under either limit
      have hkind' := mergeKind_append_of_ok fuel depth nd n wt rest nd₁ rest₁ hkind g
        (by omega) []
      simp only [List.append_nil] at hkind'
      obtain ⟨g', hg', e⟩ := mergeNodeFields_run_past hlim hrest g (by omega)
      refine ⟨g', by omega, ?_⟩
      rw [mergeNodeFields_of_read (by omega) hkey hkind', e]

/-- Decoding a concatenation: once the first part decodes, the whole decodes as reading the
second part's fields onto the node the first part gave, with fuel to spare for the second. -/
theorem Node.decode_append {a : Bytes} {x : Node} (h : Node.decode a = .ok x) (b : Bytes) :
    ∃ fuel, 4 * b.length < fuel ∧
      Node.decode (a ++ b) = (mergeNodeFields fuel nestingLimit x 0 b).map (·.1) := by
  obtain ⟨⟨x', r⟩, hrun, hx⟩ := map_eq_ok_iff.1 h
  obtain rfl : x' = x := hx
  obtain rfl : r = [] := List.eq_nil_of_length_eq_zero (mergeNodeFields_rest_length hrun)
  -- the first part's run, followed by the second part, stops where the second part starts
  have hframe := mergeNodeFields_append_of_ok _ _ _ _ _ _ _ hrun (fuelFor a) le_rfl b
  rw [Nat.zero_add, List.nil_append] at hframe
  obtain ⟨g, hg, e⟩ := mergeNodeFields_run_past (Nat.zero_le b.length) hframe (fuelFor (a ++ b))
    (by simp [fuelFor])
  refine ⟨g, by simp [fuelFor] at hg; omega, ?_⟩
  rw [Node.decode, e]

end Tree
end PgBinding
