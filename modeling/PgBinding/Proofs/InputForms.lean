import Mathlib
import PgBinding.Parser.Read
import PgBinding.Toy.Engine
import PgBinding.Proofs.WireCodec
import PgBinding.Proofs.BufferChecks
/-!
# Text and terminated bytes reach the engine alike

An input given as text is copied and terminated; one given as bytes must already end in the
terminator. For the bytes of a text followed by one terminator, both forms build a buffer with
the same content, or fail with the same precondition: an interior NUL at the byte offset of the
text's first NUL character, the only character whose encoding holds a zero octet. The buffer
consumers read nothing of a buffer but its content, so each operation answers alike in either
form, with the same calls and the same log.
-/
namespace PgBinding

/-! ## Zero octets of encoded text -/

namespace Utf8

theorem ofNat_ne_zero_of_high {n : Nat} (h1 : 128 ≤ n) (h2 : n < 256) :
    (0 : UInt8) ≠ UInt8.ofNat n := by
  intro h
  have h0 := congrArg UInt8.toNat h
  rw [toNat_ofNat_octet _ h2] at h0
  simp at h0
  omega

/-- Only NUL encodes to a zero octet: every octet of a longer encoding has its high bit set. -/
theorem zero_mem_encodeChar_iff (c : Char) :
    (0 : UInt8) ∈ String.utf8EncodeChar c ↔ c = '\x00' := by
  constructor
  · intro h
    unfold String.utf8EncodeChar at h
    dsimp only at h
    have hv := c.val.toNat_lt
    split_ifs at h with h1 h2 h3 <;> simp only [List.mem_cons, List.mem_nil_iff, or_false] at h
    · have h0 := congrArg UInt8.toNat h
      rw [toNat_ofNat_octet _ (by omega)] at h0
      exact Char.ext (UInt32.toNat_inj.1 (by simpa using h0.symm))
    · obtain h | h := h <;> exact absurd h (ofNat_ne_zero_of_high (by omega) (by omega))
    · obtain h | h | h := h <;> exact absurd h (ofNat_ne_zero_of_high (by omega) (by omega))
    · obtain h | h | h | h := h <;> exact absurd h (ofNat_ne_zero_of_high (by omega) (by omega))
  · rintro rfl
    decide

theorem encode_ofList (cs : List Char) :
    encode (String.ofList cs) = cs.flatMap String.utf8EncodeChar := by
  rw [encode_eq_flatMap, String.toList_ofList]

theorem zero_mem_encode_iff (cs : List Char) :
    (0 : UInt8) ∈ encode (String.ofList cs) ↔ '\x00' ∈ cs := by
  simp only [encode_ofList, List.mem_flatMap, zero_mem_encodeChar_iff, exists_eq_right]

/-- The first zero octet of an encoded text sits where its first NUL character's encoding
starts. -/
theorem idxOf?_encode_of_nul {s : String} {pre rest : List Char}
    (hs : s.toList = pre ++ '\x00' :: rest) (hpre : '\x00' ∉ pre) :
    (encode s).idxOf? 0 = some (encode (String.ofList pre)).length := by
  have henc : encode s = encode (String.ofList pre) ++ 0 :: encode (String.ofList rest) := by
    rw [encode_eq_flatMap, hs, List.flatMap_append, List.flatMap_cons, encode_ofList,
      encode_ofList]
    rfl
  have hnot : (0 : UInt8) ∉ encode (String.ofList pre) := (zero_mem_encode_iff pre).not.2 hpre
  rw [henc, List.idxOf?_eq_some_iff]
  refine ⟨by simp, by simp, fun j hj => ?_⟩
  rw [List.getElem_append_left hj]
  exact fun h => hnot (h ▸ List.getElem_mem hj)

theorem idxOf?_encode_of_no_nul {s : String} (h : '\x00' ∉ s.toList) :
    (encode s).idxOf? 0 = none := by
  rw [List.idxOf?_eq_none_iff, ← String.ofList_toList (s := s)]
  exact (zero_mem_encode_iff s.toList).not.2 h

end Utf8

/-! ## The two buffers -/

namespace Buffer

/-- Bytes ending in one terminator are checked for a NUL within what precedes it, as a text is. -/
theorem ofBytes_terminated (bs : Bytes) :
    ofBytes (bs ++ [0]) = match bs.idxOf? 0 with
      | some i => .error (.interiorNul i)
      | none => .ok ⟨bs, true⟩ := by
  rw [ofBytes_concat]
  rfl

theorem ofText_eq (s : String) :
    ofText s = match (Utf8.encode s).idxOf? 0 with
      | some i => .error (.interiorNul i)
      | none => .ok ⟨Utf8.encode s, false⟩ := rfl

end Buffer

/-! ## The operations in either form -/

namespace Parser

variable {σ : Type}

/-- A consumer that reads only the content of its buffer answers alike for a text and for the
text's bytes with one terminator. -/
theorem withBuffer_terminated {α : Type} (s : String) (k : Buffer → Call σ (Except Error α))
    (hk : ∀ c, k ⟨c, true⟩ = k ⟨c, false⟩) :
    withBuffer (Buffer.ofBytes (Utf8.encode s ++ [0])) k = withBuffer (Buffer.ofText s) k := by
  rw [Buffer.ofBytes_terminated, Buffer.ofText_eq]
  cases (Utf8.encode s).idxOf? 0 with
  | some i => rfl
  | none => exact hk _

/-- Each operation answers alike for a text and for its bytes with one terminator. A text with a
NUL is refused at the byte offset of its first NUL, before anything is dispatched or logged; a
text without one reaches the engine as its own bytes. -/
theorem byte_and_text_forms_agree (e : Engine σ) (s : String) (o : ParseOptions)
    (a : SplitAlgorithm) :
    parseBytes e (Utf8.encode s ++ [0]) o = parse e s o ∧
    fingerprintBytes e (Utf8.encode s ++ [0]) o = fingerprint e s o ∧
    splitBytes e (Utf8.encode s ++ [0]) a = splitSpans e s a ∧
    scanBytes e (Utf8.encode s ++ [0]) = scan e s ∧
    (∀ pre rest, s.toList = pre ++ '\x00' :: rest → '\x00' ∉ pre →
      let p : PreconditionError := .interiorNul (Utf8.encode (String.ofList pre)).length
      Buffer.ofBytes (Utf8.encode s ++ [0]) = .error p ∧ Buffer.ofText s = .error p ∧
      ∀ st, parse e s o st = .ok (.error (.precondition p)) st ∧
        fingerprint e s o st = .ok (.error (.precondition p)) st ∧
        splitSpans e s a st = .ok (.error (.precondition p)) st ∧
        scan e s st = .ok (.error (.precondition p)) st) ∧
    ('\x00' ∉ s.toList →
      Buffer.ofBytes (Utf8.encode s ++ [0]) = .ok ⟨Utf8.encode s, true⟩ ∧
      Buffer.ofText s = .ok ⟨Utf8.encode s, false⟩) := by
  refine ⟨withBuffer_terminated s _ fun _ => rfl, withBuffer_terminated s _ fun _ => rfl,
    withBuffer_terminated s _ fun _ => rfl, withBuffer_terminated s _ fun _ => rfl, ?_, ?_⟩
  · intro pre rest hs hpre
    have hidx := Utf8.idxOf?_encode_of_nul hs hpre
    have htext : Buffer.ofText s =
        .error (.interiorNul (Utf8.encode (String.ofList pre)).length) := by
      rw [Buffer.ofText_eq, hidx]
    refine ⟨by rw [Buffer.ofBytes_terminated, hidx], htext, fun st => ?_⟩
    simp only [parse, fingerprint, splitSpans, scan, htext]
    exact ⟨rfl, rfl, rfl, rfl⟩
  · intro h
    have hidx := Utf8.idxOf?_encode_of_no_nul h
    exact ⟨by rw [Buffer.ofBytes_terminated, hidx], by rw [Buffer.ofText_eq, hidx]⟩

/-- A query with a NUL after its eighth octet is refused at offset 8 in either form. -/
theorem nul_after_select_refused_at_eight :
    Buffer.ofBytes (Utf8.encode "select 1\x00" ++ [0]) = .error (.interiorNul 8) ∧
      Buffer.ofText "select 1\x00" = .error (.interiorNul 8) := by
  have h := (byte_and_text_forms_agree (Toy.engine {}) "select 1\x00" {} .scanner).2.2.2.2.1
    "select 1".toList [] (by decide) (by decide)
  have h8 : (Utf8.encode (String.ofList "select 1".toList)).length = 8 := by
    rw [Utf8.encode_ofList]
    decide
  rw [h8] at h
  exact ⟨h.1, h.2.1⟩

end Parser

end PgBinding
