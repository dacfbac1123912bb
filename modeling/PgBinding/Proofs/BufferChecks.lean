import Mathlib
import PgBinding.Buffer

/-!
# Input buffers accept exactly the terminated bytes

A C reader takes bytes as one string when they end in a NUL and hold no other
(`Buffer.Terminated`). Caller bytes are accepted exactly when they are such a string, and the
buffer is then their own memory with the terminator left off. Otherwise the first failed check
names the error: no bytes at all, a last byte that is not NUL, then the first NUL before the last
byte. A text is accepted exactly when it holds no NUL and refused at its first one otherwise; the
engine then reads its bytes and one terminator.

The C string view that `ofBytes` takes after its checks succeeds exactly on terminated bytes
(`cStrContent?_eq_some_iff`), so its own refusal is never reported. `buffers_accept_terminated`
gathers the four outcomes of each constructor.
-/

namespace PgBinding
namespace Buffer

/-- Bytes a C reader takes as one string: they end in a NUL and hold no other. -/
def Terminated (bs : Bytes) : Prop := bs.getLast? = some 0 ∧ 0 ∉ bs.dropLast

/-- The first NUL of some bytes is at offset `p`. -/
def FirstNul (bs : Bytes) (p : Nat) : Prop := bs[p]? = some 0 ∧ ∀ j < p, bs[j]? ≠ some 0

/-- The bytes the engine reads through a buffer's pointer: the content, then the terminator. -/
def cString (b : Buffer) : Bytes := b.content ++ [0]

/-! ## NUL bytes -/

theorem idxOf?_eq_some_iff_firstNul (bs : Bytes) (p : Nat) :
    bs.idxOf? 0 = some p ↔ FirstNul bs p := by
  rw [List.idxOf?_eq_some_iff]
  constructor
  · rintro ⟨hp, hzero, hbefore⟩
    refine ⟨by rw [List.getElem?_eq_getElem hp, hzero], fun j hj => ?_⟩
    rw [List.getElem?_eq_getElem (by omega)]
    simpa using hbefore j hj
  · rintro ⟨hzero, hbefore⟩
    obtain ⟨hp, hzero'⟩ := List.getElem?_eq_some_iff.1 hzero
    refine ⟨hp, hzero', fun j hj h => hbefore j hj ?_⟩
    rw [List.getElem?_eq_getElem (by omega), h]

theorem FirstNul.lt_length {bs : Bytes} {p : Nat} (h : FirstNul bs p) : p < bs.length :=
  (List.getElem?_eq_some_iff.1 h.1).1

/-- Past the bytes before it, a last byte changes no first NUL among them. -/
theorem firstNul_concat_iff {body : Bytes} {last : UInt8} {p : Nat} (hp : p < body.length) :
    FirstNul (body ++ [last]) p ↔ FirstNul body p := by
  unfold FirstNul
  have hbefore : ∀ j < p, (body ++ [last])[j]? = body[j]? := fun j hj =>
    List.getElem?_append_left (by omega)
  rw [List.getElem?_append_left hp]
  exact and_congr_right fun _ => forall₂_congr fun j hj => by rw [hbefore j hj]

theorem terminated_concat_iff (body : Bytes) (last : UInt8) :
    Terminated (body ++ [last]) ↔ last = 0 ∧ 0 ∉ body := by
  simp only [Terminated, List.getLast?_concat, List.dropLast_concat, Option.some.injEq]

/-- The C string view of terminated bytes is the bytes before the terminator. -/
theorem cStrContent?_concat_zero {body : Bytes} (h : 0 ∉ body) :
    cStrContent? (body ++ [0]) = some body := by
  have hidx : (body ++ [0]).idxOf? 0 = some body.length := by
    rw [idxOf?_eq_some_iff_firstNul]
    refine ⟨by simp, fun j hj hz => h ?_⟩
    rw [List.getElem?_append_left hj] at hz
    exact List.mem_of_getElem? hz
  simp [cStrContent?, hidx]

/-- The C string view succeeds exactly on terminated bytes, and holds what precedes the
terminator. -/
theorem cStrContent?_eq_some_iff (bs : Bytes) : cStrContent? bs = some bs.dropLast ↔ Terminated bs := by
  rcases List.eq_nil_or_concat bs with rfl | ⟨body, last, rfl⟩
  · simp [cStrContent?, Terminated]
  · rw [List.concat_eq_append, terminated_concat_iff, List.dropLast_concat]
    constructor
    · intro h
      -- the view found its NUL at the last byte, so none comes before it
      obtain ⟨i, hidx, hlen⟩ : ∃ i, (body ++ [last]).idxOf? 0 = some i ∧
          i + 1 = (body ++ [last]).length := by
        unfold cStrContent? at h
        cases hidx : (body ++ [last]).idxOf? 0 with
        | none => simp [hidx] at h
        | some i =>
          by_cases hlen : i + 1 = (body ++ [last]).length
          · exact ⟨i, rfl, hlen⟩
          · simp [hidx] at h
            simp at hlen
            omega
      have hi : i = body.length := by simp at hlen; omega
      subst hi
      obtain ⟨hzero, hbefore⟩ := (idxOf?_eq_some_iff_firstNul _ _).1 hidx
      refine ⟨by simpa using hzero, fun hmem => ?_⟩
      obtain ⟨j, hj, hjz⟩ := List.getElem_of_mem hmem
      exact hbefore j hj (by rw [List.getElem?_append_left hj, List.getElem?_eq_getElem hj, hjz])
    · rintro ⟨rfl, h⟩
      exact cStrContent?_concat_zero h

/-! ## Caller bytes -/

theorem ofBytes_nil : ofBytes [] = .error .emptyBuffer := rfl

/-- Bytes are checked by their last byte, then for a NUL before it. -/
theorem ofBytes_concat (body : Bytes) (last : UInt8) :
    ofBytes (body ++ [last]) =
      if last ≠ 0 then .error .missingTerminator
      else match body.idxOf? 0 with
        | some i => .error (.interiorNul i)
        | none => .ok ⟨body, true⟩ := by
  unfold ofBytes
  rw [List.getLast?_concat, List.dropLast_concat]
  by_cases hlast : last = 0
  · subst hlast
    simp only [ne_eq, not_true_eq_false, if_false]
    cases hidx : body.idxOf? 0 with
    | some i => rfl
    | none => simp only [cStrContent?_concat_zero (List.idxOf?_eq_none_iff.1 hidx)]
  · simp [hlast]

theorem ofBytes_eq_error_iff (b : Bytes) (e : PreconditionError) :
    ofBytes b = .error e ↔
      (b = [] ∧ e = .emptyBuffer) ∨
      (∃ x, b.getLast? = some x ∧ x ≠ 0 ∧ e = .missingTerminator) ∨
      (∃ p, b.getLast? = some 0 ∧ p + 1 < b.length ∧ FirstNul b p ∧ e = .interiorNul p) := by
  rcases List.eq_nil_or_concat b with rfl | ⟨body, last, rfl⟩
  · simp [ofBytes_nil, eq_comm]
  · rw [List.concat_eq_append, ofBytes_concat]
    simp only [List.getLast?_concat, Option.some.injEq, List.length_append, List.length_singleton,
      Nat.add_lt_add_iff_right, List.append_eq_nil_iff, List.cons_ne_nil, and_false, false_and,
      false_or, exists_eq_left']
    by_cases hlast : last = 0
    · subst hlast
      simp only [ne_eq, not_true_eq_false, if_false, false_and, true_and, false_or]
      -- a NUL before the last byte is a NUL of the bytes before it
      have hfirst : ∀ p, (p < body.length ∧ FirstNul (body ++ [0]) p) ↔ body.idxOf? 0 = some p :=
        fun p => by
          rw [idxOf?_eq_some_iff_firstNul]
          exact ⟨fun ⟨hp, h⟩ => (firstNul_concat_iff hp).1 h,
            fun h => ⟨h.lt_length, (firstNul_concat_iff h.lt_length).2 h⟩⟩
      simp only [← and_assoc, hfirst]
      cases body.idxOf? 0 with
      | some i => simp [eq_comm]
      | none => simp
    · simp [hlast, eq_comm]

theorem ofBytes_eq_ok_iff (b : Bytes) (buf : Buffer) :
    ofBytes b = .ok buf ↔
      Terminated b ∧ buf.content = b.dropLast ∧ buf.length = b.length - 1 ∧
        buf.borrowed = true := by
  rcases List.eq_nil_or_concat b with rfl | ⟨body, last, rfl⟩
  · simp [ofBytes_nil, Terminated]
  · rw [List.concat_eq_append, ofBytes_concat, terminated_concat_iff, List.dropLast_concat]
    by_cases hlast : last = 0
    · subst hlast
      cases hidx : body.idxOf? 0 with
      | some i =>
        have hmem : 0 ∈ body := List.isSome_idxOf?.1 (by rw [hidx]; rfl)
        simp [hmem]
      | none =>
        have hmem : 0 ∉ body := List.idxOf?_eq_none_iff.1 hidx
        simp only [ne_eq, not_true_eq_false, if_false, Except.ok.injEq, hmem, not_false_eq_true,
          true_and, length, List.length_append, List.length_singleton, Nat.add_sub_cancel]
        constructor
        · rintro rfl
          exact ⟨rfl, rfl, rfl⟩
        · rintro ⟨hcontent, -, hborrowed⟩
          cases buf
          simp_all
    · simp [hlast]

/-! ## Texts -/

theorem ofText_eq_error_iff (s : String) (e : PreconditionError) :
    ofText s = .error e ↔ ∃ p, FirstNul (Utf8.encode s) p ∧ e = .interiorNul p := by
  unfold ofText
  cases hidx : (Utf8.encode s).idxOf? 0 with
  | some i =>
    simp only [Except.error.injEq, ← idxOf?_eq_some_iff_firstNul, hidx, Option.some.injEq]
    exact ⟨fun h => ⟨i, rfl, h.symm⟩, fun ⟨p, hp, he⟩ => hp ▸ he.symm⟩
  | none => simp [← idxOf?_eq_some_iff_firstNul, hidx]

theorem ofText_eq_ok_iff (s : String) (buf : Buffer) :
    ofText s = .ok buf ↔
      buf.content = Utf8.encode s ∧ buf.borrowed = false ∧ Terminated buf.cString := by
  obtain ⟨content, borrowed⟩ := buf
  simp only [ofText, cString, terminated_concat_iff, true_and]
  cases hidx : (Utf8.encode s).idxOf? 0 with
  | some i =>
    have hmem : 0 ∈ Utf8.encode s := List.isSome_idxOf?.1 (by rw [hidx]; rfl)
    simp only [reduceCtorEq, false_iff, not_and]
    rintro rfl - hnot
    exact hnot hmem
  | none =>
    have hmem : 0 ∉ Utf8.encode s := List.idxOf?_eq_none_iff.1 hidx
    simp only [Except.ok.injEq, Buffer.mk.injEq]
    constructor
    · rintro ⟨rfl, rfl⟩
      exact ⟨rfl, rfl, hmem⟩
    · rintro ⟨rfl, rfl, -⟩
      exact ⟨rfl, rfl⟩

/-- Caller bytes are refused with no bytes at all, then with a last byte that is not NUL, then at
their first NUL before the last byte, and with nothing else; they are accepted exactly when they
end in their only NUL, as the caller's own memory without the terminator, one byte shorter. The C
string view taken after the checks succeeds exactly on such bytes, so its refusal is never
reported. A text is refused exactly at its first NUL; otherwise its buffer holds its bytes in a
copy, and the engine reads them followed by one NUL and no other. -/
theorem buffers_accept_terminated (b : Bytes) (s : String) (buf : Buffer) :
    (∀ e, ofBytes b = .error e ↔
      (b = [] ∧ e = .emptyBuffer) ∨
      (∃ x, b.getLast? = some x ∧ x ≠ 0 ∧ e = .missingTerminator) ∨
      (∃ p, b.getLast? = some 0 ∧ p + 1 < b.length ∧ FirstNul b p ∧ e = .interiorNul p)) ∧
    (ofBytes b = .ok buf ↔
      Terminated b ∧ buf.content = b.dropLast ∧ buf.length = b.length - 1 ∧
        buf.borrowed = true) ∧
    (cStrContent? b = some b.dropLast ↔ Terminated b) ∧
    (∀ e, ofText s = .error e ↔ ∃ p, FirstNul (Utf8.encode s) p ∧ e = .interiorNul p) ∧
    (ofText s = .ok buf ↔
      buf.content = Utf8.encode s ∧ buf.borrowed = false ∧ Terminated buf.cString) :=
  ⟨ofBytes_eq_error_iff b, ofBytes_eq_ok_iff b buf, cStrContent?_eq_some_iff b,
    ofText_eq_error_iff s, ofText_eq_ok_iff s buf⟩

end Buffer
end PgBinding
