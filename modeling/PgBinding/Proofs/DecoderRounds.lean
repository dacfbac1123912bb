import Mathlib
import PgBinding.Tree.Decode
/-!
# One round of each reader of the node decoder

What one call of each function of the node decoder's mutual recursion can do, said once with
its guards, so that the inductions over a run cite these lemmas and never unfold the decoder.
The loops over a message's and a node's entries stop with exactly their limit left or read one
entry and go on (`mergeFields_eq_ok`, `mergeNodeFields_eq_ok`); a message or a node is entered
through its length prefix, one nesting level down (`mergeMessage_eq_ok`, `mergeNode_eq_ok`); a
field the layout does not carry is skipped and any other is read into its value
(`mergeField_eq_ok`). Each comes with the equation that runs the round forward.
-/
namespace PgBinding

theorem map_eq_ok_iff {ε α β : Type} {f : α → β} {x : Except ε α} {b : β} :
    x.map f = .ok b ↔ ∃ a, x = .ok a ∧ f a = b := by
  cases x <;> simp [Except.map]

namespace Wire

theorem expect_eq_ok_iff {actual expected : WireType} :
    expect actual expected = .ok () ↔ actual = expected := by
  unfold expect
  split_ifs with h
  · exact iff_of_true rfl h
  · exact iff_of_false (by simp [fail]) h

end Wire

namespace Tree

open Wire

/-! ## Stopping at the limit -/

theorem mergeFields_at_limit {depth : Nat} {k : Kind} (fuel : Nat) (cur : List Field)
    (tail : Bytes) :
    mergeFields (fuel + 1) depth k cur tail.length tail = .ok (cur, tail) := by
  simp [mergeFields]

theorem mergeNodeFields_at_limit (fuel depth : Nat) (nd : Node) (tail : Bytes) :
    mergeNodeFields (fuel + 1) depth nd tail.length tail = .ok (nd, tail) := by
  simp [mergeNodeFields]

/-! ## Reading one entry -/

section Rounds

variable {fuel depth : Nat}

theorem mergeFields_eq_ok {k : Kind} {fs : List Field} {limit : Nat} {bs : Bytes}
    {fs' : List Field} {r : Bytes} (h : mergeFields (fuel + 1) depth k fs limit bs = .ok (fs', r)) :
    (bs.length = limit ∧ fs' = fs ∧ r = bs) ∨
    (limit < bs.length ∧ ∃ n wt rest fs₁ rest₁, readKey bs = .ok ((n, wt), rest) ∧
      mergeField fuel depth k fs n wt rest = .ok (fs₁, rest₁) ∧
      mergeFields fuel depth k fs₁ limit rest₁ = .ok (fs', r)) := by
  rw [mergeFields] at h
  split_ifs at h with hlong hend
  · split at h
    · cases h
    · rename_i n wt rest hkey
      split at h
      · cases h
      · rename_i fs₁ rest₁ hfield
        exact .inr ⟨hlong, n, wt, rest, fs₁, rest₁, hkey, hfield, h⟩
  · cases h
    exact .inl ⟨hend, rfl, rfl⟩
  · cases h

theorem mergeFields_of_read {k : Kind} {fs : List Field} {limit : Nat} {bs : Bytes} {n : Nat}
    {wt : WireType} {rest : Bytes} {fs₁ : List Field} {rest₁ : Bytes} (hlong : limit < bs.length)
    (hkey : readKey bs = .ok ((n, wt), rest))
    (hfield : mergeField fuel depth k fs n wt rest = .ok (fs₁, rest₁)) :
    mergeFields (fuel + 1) depth k fs limit bs = mergeFields fuel depth k fs₁ limit rest₁ := by
  rw [mergeFields, if_pos hlong, hkey]
  simp only [hfield]

theorem mergeNodeFields_eq_ok {nd : Node} {limit : Nat} {bs : Bytes} {nd' : Node} {r : Bytes}
    (h : mergeNodeFields (fuel + 1) depth nd limit bs = .ok (nd', r)) :
    (bs.length = limit ∧ nd' = nd ∧ r = bs) ∨
    (limit < bs.length ∧ ∃ n wt rest nd₁ rest₁, readKey bs = .ok ((n, wt), rest) ∧
      mergeKind fuel depth nd n wt rest = .ok (nd₁, rest₁) ∧
      mergeNodeFields fuel depth nd₁ limit rest₁ = .ok (nd', r)) := by
  rw [mergeNodeFields] at h
  split_ifs at h with hlong hend
  · split at h
    · cases h
    · rename_i n wt rest hkey
      split at h
      · cases h
      · rename_i nd₁ rest₁ hkind
        exact .inr ⟨hlong, n, wt, rest, nd₁, rest₁, hkey, hkind, h⟩
  · cases h
    exact .inl ⟨hend, rfl, rfl⟩
  · cases h

theorem mergeNodeFields_of_read {nd : Node} {limit : Nat} {bs : Bytes} {n : Nat} {wt : WireType}
    {rest : Bytes} {nd₁ : Node} {rest₁ : Bytes} (hlong : limit < bs.length)
    (hkey : readKey bs = .ok ((n, wt), rest))
    (hkind : mergeKind fuel depth nd n wt rest = .ok (nd₁, rest₁)) :
    mergeNodeFields (fuel + 1) depth nd limit bs = mergeNodeFields fuel depth nd₁ limit rest₁ := by
  rw [mergeNodeFields, if_pos hlong, hkey]
  simp only [hkind]

theorem mergeMessage_eq_ok {k : Kind} {fs : List Field} {wt : WireType} {bs : Bytes}
    {fs' : List Field} {r : Bytes} (h : mergeMessage (fuel + 1) depth k fs wt bs = .ok (fs', r)) :
    wt = .lengthDelimited ∧ depth ≠ 0 ∧ ∃ limit rest, enterBody bs = .ok (limit, rest) ∧
      mergeFields fuel (depth - 1) k fs limit rest = .ok (fs', r) := by
  rw [mergeMessage] at h
  split at h
  · cases h
  · rename_i hwt
    split_ifs at h with hd
    · cases h
    · split at h
      · cases h
      · rename_i limit rest hbody
        exact ⟨expect_eq_ok_iff.1 hwt, hd, limit, rest, hbody, h⟩

theorem mergeMessage_of_body {k : Kind} {fs : List Field} {bs : Bytes} {limit : Nat}
    {rest : Bytes} (hd : depth ≠ 0) (hbody : enterBody bs = .ok (limit, rest)) :
    mergeMessage (fuel + 1) depth k fs .lengthDelimited bs =
      mergeFields fuel (depth - 1) k fs limit rest := by
  simp only [mergeMessage, expect, if_pos, if_neg hd, hbody]

theorem mergeNode_eq_ok {nd : Node} {wt : WireType} {bs : Bytes} {nd' : Node} {r : Bytes}
    (h : mergeNode (fuel + 1) depth nd wt bs = .ok (nd', r)) :
    wt = .lengthDelimited ∧ depth ≠ 0 ∧ ∃ limit rest, enterBody bs = .ok (limit, rest) ∧
      mergeNodeFields fuel (depth - 1) nd limit rest = .ok (nd', r) := by
  rw [mergeNode] at h
  split at h
  · cases h
  · rename_i hwt
    split_ifs at h with hd
    · cases h
    · split at h
      · cases h
      · rename_i limit rest hbody
        exact ⟨expect_eq_ok_iff.1 hwt, hd, limit, rest, hbody, h⟩

theorem mergeNode_of_body {nd : Node} {bs : Bytes} {limit : Nat} {rest : Bytes} (hd : depth ≠ 0)
    (hbody : enterBody bs = .ok (limit, rest)) :
    mergeNode (fuel + 1) depth nd .lengthDelimited bs =
      mergeNodeFields fuel (depth - 1) nd limit rest := by
  simp only [mergeNode, expect, if_pos, if_neg hd, hbody]

theorem mergeField_eq {depth : Nat} {k : Kind} {fuel : Nat} {cur : List Field} {n : Nat} {wt : WireType} {bs : Bytes}
    {j : Nat} {spec : FieldSpec} {v : Field} {rest : Bytes}
    (hidx : k.fields.findIdx? (·.carries n) = some j) (hspec : k.fields[j]? = some spec)
    (hv : mergeValue fuel depth spec.type (cur.getD j spec.type.default) n wt bs = .ok (v, rest)) :
    mergeField (fuel + 1) depth k cur n wt bs = .ok (cur.set j v, rest) := by
  simp only [mergeField, hidx, hspec, hv]

/-- A field number the layout of `k` does not carry. -/
def Kind.Unknown (k : Kind) (n : Nat) : Prop :=
  ∀ i, k.fields.findIdx? (·.carries n) = some i → k.fields[i]? = none

theorem mergeField_eq_ok {k : Kind} {fs : List Field} {n : Nat} {wt : WireType} {bs : Bytes}
    {fs' : List Field} {r : Bytes} (h : mergeField (fuel + 1) depth k fs n wt bs = .ok (fs', r)) :
    (k.Unknown n ∧ fs' = fs ∧ skipField depth wt n bs = .ok r) ∨
    (∃ i spec v, k.fields.findIdx? (·.carries n) = some i ∧ k.fields[i]? = some spec ∧
      mergeValue fuel depth spec.type (fs.getD i spec.type.default) n wt bs = .ok (v, r) ∧
      fs' = fs.set i v) := by
  rw [mergeField] at h
  split at h
  · rename_i hidx
    obtain ⟨r', hskip, heq⟩ := map_eq_ok_iff.1 h
    cases heq
    exact .inl ⟨fun i hi => by simp [hidx] at hi, rfl, hskip⟩
  · rename_i i hidx
    split at h
    · rename_i hnone
      obtain ⟨r', hskip, heq⟩ := map_eq_ok_iff.1 h
      cases heq
      refine .inl ⟨fun j hj => ?_, rfl, hskip⟩
      obtain rfl : i = j := Option.some.inj (hidx.symm.trans hj)
      exact hnone
    · rename_i spec hspec
      split at h
      · cases h
      · rename_i v rest hval
        cases h
        exact .inr ⟨i, spec, v, hidx, hspec, hval, rfl⟩

theorem mergeField_of_unknown {k : Kind} {fs : List Field} {n : Nat} {wt : WireType} {bs : Bytes}
    (h : k.Unknown n) :
    mergeField (fuel + 1) depth k fs n wt bs = (skipField depth wt n bs).map ((fs, ·)) := by
  rw [mergeField]
  split
  · rfl
  · rename_i i hidx
    rw [h i hidx]

end Rounds

end Tree
end PgBinding
