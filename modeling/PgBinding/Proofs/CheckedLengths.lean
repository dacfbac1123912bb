import Mathlib
import PgBinding.Proofs.Splitting

/-!
# Lengths checked before anything is read

The engine hands back a payload as a data pointer and a length, and an array as a pointer and a
count. Nothing behind a pointer is read before its length is checked. A null pointer or a zero
length is the empty payload, whatever the other field holds, and a zero count is the empty array.
A null array with a positive count is out of range, and so is any length past the largest signed
64-bit value; both are reported with the length clamped to that value. Otherwise exactly the first
`len` entries are read.

`payloadBytes_eq_ok_iff` and `pointerArray_eq_ok_iff` say where the bytes and the entries come
from, `payloadBytes_eq_error_iff` and `pointerArray_eq_error_iff` what is refused and how it is
reported. `lengths_checked_before_read` follows a payload through the three operations that decode
one.
-/

namespace PgBinding

namespace Materialize

/-- The checks of a payload, in order: null data or a zero length, then the length's
addressability. -/
theorem payloadBytes_eq (what : String) (p : Payload) :
    payloadBytes what p =
      if p.data = none ∨ p.len = 0 then .ok []
      else if Error.int64Max < p.len then .error (.outOfRange what (min p.len Error.int64Max))
      else .ok ((p.data.getD []).take p.len) := by
  rcases p with ⟨_ | d, len⟩
  · rfl
  · by_cases hzero : len = 0
    · simp [payloadBytes, hzero]
    · by_cases hbig : Error.int64Max < len
      · simp [payloadBytes, checkedLen, Error.outOfRangeCount, hzero, hbig, Except.map]
      · simp [payloadBytes, checkedLen, hzero, hbig, Except.map]

/-- The bytes of a payload are none at all for null data or a zero length; otherwise they are the
first `len` bytes behind a non-null pointer, with `len` addressable. -/
theorem payloadBytes_eq_ok_iff (what : String) (p : Payload) (bs : Bytes) :
    payloadBytes what p = .ok bs ↔
      ((p.data = none ∨ p.len = 0) ∧ bs = []) ∨
      ∃ d, p.data = some d ∧ 0 < p.len ∧ p.len ≤ Error.int64Max ∧ bs = d.take p.len := by
  rw [payloadBytes_eq]
  rcases p with ⟨_ | d, len⟩
  · simp [eq_comm]
  · by_cases hzero : len = 0
    · simp [hzero, eq_comm]
    · by_cases hbig : Error.int64Max < len
      · simp [hzero, hbig]
      · simp [hzero, hbig, Nat.pos_of_ne_zero hzero, Nat.le_of_not_lt hbig, eq_comm]

/-- A payload is refused only for a length past the addressable ones behind a non-null pointer,
reported clamped. -/
theorem payloadBytes_eq_error_iff (what : String) (p : Payload) (err : Error) :
    payloadBytes what p = .error err ↔
      p.data.isSome ∧ Error.int64Max < p.len ∧
        err = .outOfRange what (min p.len Error.int64Max) := by
  rw [payloadBytes_eq]
  rcases p with ⟨_ | d, len⟩
  · simp
  · by_cases hzero : len = 0
    · simp [hzero]
    · by_cases hbig : Error.int64Max < len
      · simp [hzero, hbig, eq_comm]
      · simp [hzero, hbig]

/-- The checks of an array, in order: a zero count, then a null pointer or an unaddressable
count. -/
theorem pointerArray_eq {α : Type} (what : String) (items : Option (List α)) (count : Nat) :
    pointerArray what items count =
      if count = 0 then .ok []
      else if items = none ∨ Error.int64Max < count then
        .error (.outOfRange what (min count Error.int64Max))
      else .ok ((items.getD []).take count) := by
  by_cases hzero : count = 0
  · simp [pointerArray, hzero]
  · rcases items with _ | ys
    · simp [pointerArray, hzero, Error.outOfRangeCount]
    · by_cases hbig : Error.int64Max < count
      · simp [pointerArray, checkedLen, Error.outOfRangeCount, hzero, hbig, Except.map]
      · simp [pointerArray, checkedLen, hzero, hbig, Except.map]

/-- The entries of an array are none at all for a zero count; otherwise they are the first
`count` entries behind a non-null pointer, with `count` addressable. -/
theorem pointerArray_eq_ok_iff {α : Type} (what : String) (items : Option (List α)) (count : Nat)
    (xs : List α) :
    pointerArray what items count = .ok xs ↔
      (count = 0 ∧ xs = []) ∨
      ∃ ys, items = some ys ∧ 0 < count ∧ count ≤ Error.int64Max ∧ xs = ys.take count := by
  rw [pointerArray_eq]
  by_cases hzero : count = 0
  · simp [hzero, eq_comm]
  · rcases items with _ | ys
    · simp [hzero]
    · by_cases hbig : Error.int64Max < count
      · simp [hzero, hbig]
      · simp [hzero, hbig, Nat.pos_of_ne_zero hzero, Nat.le_of_not_lt hbig, eq_comm]

/-- An array is refused only for a positive count that is null or past the addressable lengths,
reported clamped. -/
theorem pointerArray_eq_error_iff {α : Type} (what : String) (items : Option (List α))
    (count : Nat) (err : Error) :
    pointerArray what items count = .error err ↔
      0 < count ∧ (items = none ∨ Error.int64Max < count) ∧
        err = .outOfRange what (min count Error.int64Max) := by
  rw [pointerArray_eq]
  by_cases hzero : count = 0
  · simp [hzero]
  · split_ifs with hnull
    · simp [Nat.pos_of_ne_zero hzero, hnull, eq_comm]
    · simp [hnull]

end Materialize

open Materialize

/-- What reading a payload as a message answers: the message of no bytes for null data or a zero
length, an out-of-range length past the addressable ones, and otherwise what the first `len`
bytes behind the pointer decode to. -/
def Payload.Reads {β : Type} (what : String) (decode : Bytes → Except Wire.DecodeError β)
    (p : Payload) (out : Except Error β) : Prop :=
  ((p.data = none ∨ p.len = 0) ∧ out = (decode []).mapError (Error.decode what)) ∨
  (p.data.isSome ∧ Error.int64Max < p.len ∧ out = .error (.outOfRange what Error.int64Max)) ∨
  (∃ d, p.data = some d ∧ 0 < p.len ∧ p.len ≤ Error.int64Max ∧
    out = (decode (d.take p.len)).mapError (Error.decode what))

theorem Payload.reads_payloadBytes {β : Type} (what : String)
    (decode : Bytes → Except Wire.DecodeError β) (p : Payload) :
    p.Reads what decode
      (payloadBytes what p >>= fun bs => (decode bs).mapError (Error.decode what)) := by
  cases hbytes : payloadBytes what p with
  | error err =>
    obtain ⟨hsome, hbig, rfl⟩ := (payloadBytes_eq_error_iff what p err).1 hbytes
    refine .inr (.inl ⟨hsome, hbig, ?_⟩)
    have hclamp : min (p.len : Int) Error.int64Max = Error.int64Max := by omega
    rw [hclamp]
    rfl
  | ok bs =>
    rcases (payloadBytes_eq_ok_iff what p bs).1 hbytes with ⟨hempty, rfl⟩ | ⟨d, hd, hpos, hle, rfl⟩
    · exact .inl ⟨hempty, rfl⟩
    · exact .inr (.inr ⟨d, hd, hpos, hle, rfl⟩)

/-- Bytes read as they are: the summary's payload is handed on undecoded. -/
theorem Payload.reads_payloadBytes_self (what : String) (p : Payload) :
    p.Reads what .ok (payloadBytes what p) := by
  have h := p.reads_payloadBytes what .ok
  rwa [show (fun bs => (Except.ok bs : Except Wire.DecodeError Bytes).mapError (Error.decode what))
    = pure from rfl, bind_pure] at h

theorem Tree.ParseTree.decode_nil : Tree.ParseTree.decode [] = .ok {} := rfl

theorem Scan.Scanned.decode_nil : Scan.Scanned.decode [] = .ok {} := rfl

namespace Parser

variable {σ : Type}

/-- A payload that the engine returns without an error is read only after its length is
checked, by the tree parse, the scan and the summary alike: null data or a zero length is the
empty tree, the empty scan or no bytes, whatever the other field holds; a length past the
addressable ones behind a non-null pointer is out of range, reported as the largest signed 64-bit
value; otherwise exactly the first `len` bytes are decoded, or handed on. More generally the
payload and array readers take entries only from a non-null pointer with a positive, addressable
length, and report every length they refuse clamped to the largest signed 64-bit value. -/
theorem lengths_checked_before_read (e : Engine σ) (buf : Buffer) (s s' : σ)
    (r : PayloadReply) (herr : r.error = none) :
    (∀ o : ParseOptions,
      e.parseProtobuf buf.content o.bits (e.note (dispatchRecord .parseProtobuf) s) = .ok r s' →
      ∃ t out, parseBuffer e buf o s = .ok out t ∧
        r.payload.Reads "parse tree" Tree.ParseTree.decode out) ∧
    (e.scan buf.content (e.note (dispatchRecord .scan) s) = .ok r s' →
      ∃ t out, scanBuffer e buf s = .ok out t ∧
        r.payload.Reads "scan result" Scan.Scanned.decode out) ∧
    (∀ sql (o : ParseOptions) limit, Buffer.ofText sql = .ok buf →
      e.summary buf.content o.bits limit (e.note (dispatchRecord .summary) s) = .ok (some r) s' →
      ∃ t out, summary e sql o limit s = .ok out t ∧ r.payload.Reads "summary" .ok out) ∧
    Tree.ParseTree.decode [] = .ok {} ∧ Scan.Scanned.decode [] = .ok {} ∧
    (∀ what p bs, payloadBytes what p = .ok bs ↔
      ((p.data = none ∨ p.len = 0) ∧ bs = []) ∨
      ∃ d, p.data = some d ∧ 0 < p.len ∧ p.len ≤ Error.int64Max ∧ bs = d.take p.len) ∧
    (∀ what p err, payloadBytes what p = .error err ↔
      p.data.isSome ∧ Error.int64Max < p.len ∧
        err = .outOfRange what (min p.len Error.int64Max)) ∧
    (∀ (α : Type) what (items : Option (List α)) count xs, pointerArray what items count = .ok xs ↔
      (count = 0 ∧ xs = []) ∨
      ∃ ys, items = some ys ∧ 0 < count ∧ count ≤ Error.int64Max ∧ xs = ys.take count) ∧
    (∀ (α : Type) what (items : Option (List α)) count err,
      pointerArray what items count = .error err ↔
        0 < count ∧ (items = none ∨ Error.int64Max < count) ∧
          err = .outOfRange what (min count Error.int64Max)) := by
  refine ⟨fun o hcall => ?_, fun hcall => ?_, fun sql o limit hbuf hcall => ?_,
    Tree.ParseTree.decode_nil, Scan.Scanned.decode_nil, payloadBytes_eq_ok_iff, payloadBytes_eq_error_iff,
    fun _ => pointerArray_eq_ok_iff, fun _ => pointerArray_eq_error_iff⟩
  · obtain ⟨t, ht⟩ := run_of_answer e .parseProtobuf _ hcall herr
    exact ⟨t, _, ht, r.payload.reads_payloadBytes _ _⟩
  · obtain ⟨t, ht⟩ := run_of_answer e .scan _ hcall herr
    exact ⟨t, _, ht, r.payload.reads_payloadBytes _ _⟩
  · obtain ⟨t, ht⟩ := runOptional_of_answer e .summary "pg_query_summary"
      (fun r : PayloadReply => payloadBytes "summary" r.payload) hcall herr
    refine ⟨t, _, ?_, r.payload.reads_payloadBytes_self _⟩
    rw [summary, hbuf]
    exact ht

/-- A scan answered with a length of `2^63` is refused as out of range, and not a byte is read. -/
theorem oversized_scan_refused :
    ∃ t, scanBuffer Scripted.direct ⟨[0x61], false⟩
        (Scripted.State.ofScript [{ scan := { data := some [], len := 2 ^ 63 } }]) =
      .ok (.error (.outOfRange "scan result" Error.int64Max)) t := by
  obtain ⟨t, out, ht, hreads⟩ := (lengths_checked_before_read Scripted.direct ⟨[0x61], false⟩
    (Scripted.State.ofScript [{ scan := { data := some [], len := 2 ^ 63 } }]) _
    { payload := { data := some [], len := 2 ^ 63 } } rfl).2.1 rfl
  refine ⟨t, ht.trans ?_⟩
  rcases hreads with ⟨hempty, -⟩ | ⟨-, -, rfl⟩ | ⟨d, -, -, hle, -⟩
  · simp at hempty
  · rfl
  · exact absurd hle (by decide)

end Parser

end PgBinding
