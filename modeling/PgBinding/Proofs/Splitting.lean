import Mathlib
import PgBinding.Proofs.Precedence
import PgBinding.Proofs.TextDecoding
import PgBinding.Engine.Scripted

/-!
# Splitting a batch into statements

A split result is a count and an array of statement records. `spansOf` turns it into spans after
three checks: the count, the array, and each of the first `count` records in order. This module
reads those checks as relations on one record (`Locates`, `Refuses`) and proves which error wins.

A span is then cut out of the text only on character boundaries: `StatementSpan.slice` answers the
piece of the text between two valid positions (`slice_eq_ok_iff`, `slice_isOk_iff`), and `split`
answers the pieces of every span or the first span that does not fit.
-/

namespace PgBinding

/-- The statement records of a split result: the first `count` entries of its array. -/
def SplitReply.entries (r : SplitReply) : List (Option (Int32 × Int32)) :=
  (r.stmts.getD []).take r.count.toInt.toNat

namespace Parser

open Materialize

variable {σ : Type}

/-- The span a statement record stands for: a null record stands for the empty span at 0, any
other for its location and its length, neither of them negative. -/
def Locates : Option (Int32 × Int32) → StatementSpan → Prop
  | none, span => span = {}
  | some (loc, len), span => (span.location : Int) = loc.toInt ∧ (span.length : Int) = len.toInt

/-- Why a statement record is refused: a negative location, else a negative length. -/
def Refuses : Option (Int32 × Int32) → Error → Prop
  | none, _ => False
  | some (loc, len), err =>
    (loc.toInt < 0 ∧ err = .outOfRange "statement location" loc.toInt) ∨
    (0 ≤ loc.toInt ∧ len.toInt < 0 ∧ err = .outOfRange "statement length" len.toInt)

theorem nonNegative_eq_ok_iff (what : String) (v : Int32) (n : Nat) :
    nonNegative what v = .ok n ↔ (n : Int) = v.toInt := by
  unfold nonNegative
  split_ifs with h
  · simp only [false_iff]
    omega
  · simp only [Except.ok.injEq]
    omega

theorem nonNegative_eq_error_iff (what : String) (v : Int32) (err : Error) :
    nonNegative what v = .error err ↔ v.toInt < 0 ∧ err = .outOfRange what v.toInt := by
  unfold nonNegative
  split_ifs with h
  · simp only [Except.error.injEq, h, true_and]
    exact eq_comm
  · simp [h]

theorem spanOf_eq_ok_iff (x : Option (Int32 × Int32)) (span : StatementSpan) :
    spanOf x = .ok span ↔ Locates x span := by
  rcases x with _ | ⟨loc, len⟩
  · simp only [spanOf, Locates, Except.ok.injEq]
    exact eq_comm
  · simp only [spanOf, Locates, bind_eq_ok_iff, nonNegative_eq_ok_iff, pure, Except.pure,
      Except.ok.injEq]
    constructor
    · rintro ⟨l, hl, n, hn, rfl⟩
      exact ⟨hl, hn⟩
    · rintro ⟨hl, hn⟩
      exact ⟨_, hl, _, hn, rfl⟩

theorem spanOf_eq_error_iff (x : Option (Int32 × Int32)) (err : Error) :
    spanOf x = .error err ↔ Refuses x err := by
  rcases x with _ | ⟨loc, len⟩
  · simp [spanOf, Refuses]
  · simp only [spanOf, Refuses, bind_eq_error_iff, nonNegative_eq_error_iff,
      nonNegative_eq_ok_iff, pure, Except.pure, reduceCtorEq, and_false, exists_false, or_false]
    constructor
    · rintro (hloc | ⟨l, hl, hlen⟩)
      · exact .inl hloc
      · exact .inr ⟨by omega, hlen⟩
    · rintro (hloc | ⟨hl, hlen⟩)
      · exact .inl hloc
      · exact .inr ⟨loc.toInt.toNat, by omega, hlen⟩


/-- A pointer array that is there whenever its count is positive, with an addressable count, is
read as its first `count` entries. -/
theorem pointerArray_eq_ok {α : Type} (what : String) (items : Option (List α)) {count : Nat}
    (hcount : count ≤ Error.int64Max) (harray : count = 0 ∨ items.isSome) :
    pointerArray what items count = .ok ((items.getD []).take count) := by
  unfold pointerArray
  split_ifs with hzero
  · simp [hzero]
  · obtain ⟨xs, rfl⟩ := Option.isSome_iff_exists.1 (harray.resolve_left hzero)
    simp only [checkedLen, if_neg (Nat.not_lt.2 hcount), Except.map, Option.getD_some]

/-- Past the count's and the array's checks, the array is there unless the count is 0. -/
theorem SplitReply.count_eq_zero_or_isSome {r : SplitReply} (hneg : ¬ r.count.toInt < 0)
    (hnull : ¬ (0 < r.count.toInt ∧ r.stmts = none)) : r.count.toInt = 0 ∨ r.stmts.isSome := by
  cases h : r.stmts with
  | none => exact .inl (by simp only [h, and_true] at hnull; omega)
  | some xs => exact .inr rfl

/-- The checks of a split result, in order: the count must not be negative, the array must not be
null unless the count is 0, and then each of the first `count` records is copied. -/
theorem spansOf_eq (r : SplitReply) :
    spansOf r =
      if r.count.toInt < 0 then .error (.outOfRange "statement count" r.count.toInt)
      else if 0 < r.count.toInt ∧ r.stmts = none then
        .error (.outOfRange "statement list" r.count.toInt)
      else r.entries.mapM spanOf := by
  -- a C int count is never beyond the addressable lengths
  have hsmall : r.count.toInt.toNat ≤ Error.int64Max := by
    have := r.count.toInt_lt
    unfold Error.int64Max
    omega
  unfold spansOf
  split_ifs with hneg hnull
  · simp only [nonNegative, if_pos hneg, bind, Except.bind]
  · obtain ⟨hpos, hnone⟩ := hnull
    simp only [nonNegative, if_neg hneg, bind, Except.bind, pointerArray, hnone]
    rw [if_neg (by omega)]
    simp only [Error.outOfRangeCount, Except.error.injEq, Error.outOfRange.injEq, true_and]
    omega
  · have harray : r.count.toInt.toNat = 0 ∨ r.stmts.isSome :=
      (SplitReply.count_eq_zero_or_isSome hneg hnull).imp_left (by omega)
    simp only [nonNegative, if_neg hneg, bind, Except.bind, pointerArray_eq_ok _ _ hsmall harray]
    rfl


theorem spansOf_eq_ok_iff_locates (r : SplitReply) (spans : List StatementSpan) :
    spansOf r = .ok spans ↔ 0 ≤ r.count.toInt ∧ (r.count.toInt = 0 ∨ r.stmts.isSome) ∧
      List.Forall₂ Locates r.entries spans := by
  rw [spansOf_eq]
  split_ifs with hneg hnull
  · simp only [false_iff, not_and]
    omega
  · simp only [false_iff, not_and, hnull.2, Option.isSome_none, Bool.false_eq_true,
      or_false]
    omega
  · rw [mapM_eq_ok_iff]
    simp only [spanOf_eq_ok_iff]
    have hsome := SplitReply.count_eq_zero_or_isSome hneg hnull
    exact ⟨fun h => ⟨by omega, hsome, h⟩, fun h => h.2.2⟩

theorem spansOf_eq_error_iff (r : SplitReply) (err : Error) :
    spansOf r = .error err ↔
      (r.count.toInt < 0 ∧ err = .outOfRange "statement count" r.count.toInt) ∨
      (0 < r.count.toInt ∧ r.stmts = none ∧ err = .outOfRange "statement list" r.count.toInt) ∨
      (0 ≤ r.count.toInt ∧ (r.count.toInt = 0 ∨ r.stmts.isSome) ∧
        ∃ pre x post, r.entries = pre ++ x :: post ∧ (∀ y ∈ pre, ∃ span, Locates y span) ∧
          Refuses x err) := by
  rw [spansOf_eq]
  split_ifs with hneg hnull
  · have hpos : ¬ 0 < r.count.toInt := by omega
    have hnonneg : ¬ 0 ≤ r.count.toInt := by omega
    simp only [Except.error.injEq, hneg, hpos, hnonneg, true_and, false_and, or_false]
    exact eq_comm
  · obtain ⟨hpos, hnone⟩ := hnull
    have hzero : r.count.toInt ≠ 0 := by omega
    simp only [Except.error.injEq, hneg, hpos, hnone, hzero, Option.isSome_none, true_and,
      false_and, false_or, or_false, and_false, Bool.false_eq_true]
    exact eq_comm
  · have hsome := SplitReply.count_eq_zero_or_isSome hneg hnull
    have hnonneg : 0 ≤ r.count.toInt := by omega
    rw [mapM_eq_error_iff]
    simp only [spanOf_eq_ok_iff, spanOf_eq_error_iff, hneg, hnonneg, hsome, false_and, false_or,
      true_and]
    constructor
    · exact .inr
    · rintro (⟨hpos, hnone, -⟩ | h)
      · exact absurd ⟨hpos, hnone⟩ hnull
      · exact h


/-- With an array of at least `count` records, the spans are exactly `count` many. -/
theorem length_of_spansOf {r : SplitReply}
    (hwf : ∀ xs, r.stmts = some xs → r.count.toInt ≤ xs.length) {spans : List StatementSpan}
    (h : spansOf r = .ok spans) : spans.length = r.count.toInt.toNat := by
  obtain ⟨hnonneg, hsome, hall⟩ := (spansOf_eq_ok_iff_locates r spans).1 h
  rw [← hall.length_eq, SplitReply.entries]
  cases hs : r.stmts with
  | none =>
    simp only [hs, Option.isSome_none, Bool.false_eq_true, or_false] at hsome
    simp only [Option.getD_none, List.take_nil, List.length_nil]
    omega
  | some xs =>
    have hlen := hwf xs hs
    simp only [Option.getD_some, List.length_take]
    omega

/-- Nothing past the first `count` records is read: two results that agree on the count, on
whether the array is null, and on those records are materialized alike. -/
theorem spansOf_congr {r r' : SplitReply} (hcount : r'.count = r.count)
    (hnull : r'.stmts.isSome = r.stmts.isSome) (hentries : r'.entries = r.entries) :
    spansOf r' = spansOf r := by
  have hnone : r'.stmts = none ↔ r.stmts = none := by
    rw [← Option.not_isSome_iff_eq_none, ← Option.not_isSome_iff_eq_none, hnull]
  rw [spansOf_eq, spansOf_eq, hcount, hentries]
  simp only [hnone]

/-- A split result without an error record is answered with its spans, whichever algorithm
chose the entry point. -/
theorem splitBuffer_of_answer (e : Engine σ) (a : SplitAlgorithm) (buf : Buffer) {s s' : σ}
    {r : SplitReply}
    (hcall : (match a with
      | .scanner => e.splitWithScanner
      | .parser => e.splitWithParser) buf.content (e.note (dispatchRecord .split) s) = .ok r s')
    (herr : r.error = none) : ∃ t, splitBuffer e buf a s = .ok (spansOf r) t := by
  cases a <;> exact run_of_answer e .split spansOf hcall herr


/-- A split result without an error record, as the engine answers it: the split operations answer
exactly its spans, whichever algorithm chose the entry point. The spans come only from a count
that is not negative and an array that is there when the count is positive; then each of the
first `count` records stands for one span in order, a null record for the empty span at 0, and
there are `count` of them. Otherwise the count's, the array's or the first refused record's error
is reported, a record's location before its length, and nothing past the first `count` records is
read. -/
theorem split_answers_counted_spans (e : Engine σ) (a : SplitAlgorithm) (buf : Buffer) (s s' : σ)
    (r : SplitReply)
    (hcall : (match a with
      | .scanner => e.splitWithScanner
      | .parser => e.splitWithParser) buf.content (e.note (dispatchRecord .split) s) = .ok r s')
    (herr : r.error = none) (hwf : ∀ xs, r.stmts = some xs → r.count.toInt ≤ xs.length) :
    (∀ sql, Buffer.ofText sql = .ok buf → ∃ t, splitSpans e sql a s = .ok (spansOf r) t) ∧
    (∀ bytes, Buffer.ofBytes bytes = .ok buf → ∃ t, splitBytes e bytes a s = .ok (spansOf r) t) ∧
    (∀ spans, spansOf r = .ok spans ↔ 0 ≤ r.count.toInt ∧ (r.count.toInt = 0 ∨ r.stmts.isSome) ∧
      List.Forall₂ Locates r.entries spans) ∧
    (∀ spans, spansOf r = .ok spans → spans.length = r.count.toInt.toNat) ∧
    (∀ err, spansOf r = .error err ↔
      (r.count.toInt < 0 ∧ err = .outOfRange "statement count" r.count.toInt) ∨
      (0 < r.count.toInt ∧ r.stmts = none ∧ err = .outOfRange "statement list" r.count.toInt) ∨
      (0 ≤ r.count.toInt ∧ (r.count.toInt = 0 ∨ r.stmts.isSome) ∧
        ∃ pre x post, r.entries = pre ++ x :: post ∧ (∀ y ∈ pre, ∃ span, Locates y span) ∧
          Refuses x err)) ∧
    (∀ r' : SplitReply, r'.count = r.count → r'.stmts.isSome = r.stmts.isSome →
      r'.entries = r.entries → spansOf r' = spansOf r) := by
  obtain ⟨t, ht⟩ := splitBuffer_of_answer e a buf hcall herr
  refine ⟨fun sql hbuf => ⟨t, ?_⟩, fun bytes hbuf => ⟨t, ?_⟩, spansOf_eq_ok_iff_locates r,
    fun _ => length_of_spansOf hwf, spansOf_eq_error_iff r, fun _ => spansOf_congr⟩
  · rw [splitSpans, hbuf]
    exact ht
  · rw [splitBytes, hbuf]
    exact ht

/-- Split as bytes, `a;b` with two counted records, the second null, answers the span of `a` and
the empty span; the record past the count is not read. -/
theorem split_of_two_counted_records :
    ∃ t, splitBytes Scripted.direct [0x61, 0x3b, 0x62, 0] .scanner
      (Scripted.State.ofScript
        [{ stmts := some [some (0, 1), none, some (2, 1)], stmtCount := some 2 }]) =
        .ok (.ok [⟨0, 1⟩, {}]) t := by
  have h := (split_answers_counted_spans Scripted.direct .scanner ⟨[0x61, 0x3b, 0x62], true⟩
    (Scripted.State.ofScript
      [{ stmts := some [some (0, 1), none, some (2, 1)], stmtCount := some 2 }]) _
    { stmts := some [some (0, 1), none, some (2, 1)], count := 2 } rfl rfl
    (fun xs hxs => by cases hxs; decide)).2.1 [0x61, 0x3b, 0x62, 0] rfl
  have hspans : spansOf { stmts := some [some (0, 1), none, some (2, 1)], count := 2 } =
      .ok [⟨0, 1⟩, {}] := rfl
  rwa [hspans] at h

end Parser

/-! ## Cutting statements out of the text -/

/-- A span fits a text when it ends within it and both of its ends are valid positions, so that
no character is cut. -/
def StatementSpan.Fits (span : StatementSpan) (sql : String) : Prop :=
  span.location + span.length ≤ sql.utf8ByteSize ∧
    (⟨span.location⟩ : String.Pos.Raw).IsValid sql ∧
    (⟨span.location + span.length⟩ : String.Pos.Raw).IsValid sql

namespace StatementSpan

theorem recordText_eq_ok_iff_slice? (span : StatementSpan) (sql t : String) :
    span.recordText sql = .ok t ↔
      Utf8.slice? sql span.location (span.location + span.length) = some t := by
  unfold recordText cut
  cases Utf8.slice? sql span.location (span.location + span.length) <;> simp

/-- The text of a span is the piece of the text that starts after `location` bytes and is
`length` bytes long. -/
theorem recordText_eq_ok_iff (span : StatementSpan) (sql t : String) :
    span.recordText sql = .ok t ↔
      ∃ pre post, sql = pre ++ t ++ post ∧ pre.utf8ByteSize = span.location ∧
        t.utf8ByteSize = span.length := by
  rw [recordText_eq_ok_iff_slice?, Utf8.slice?_eq_some_iff]
  constructor
  · rintro ⟨pre, mid, post, hs, hpre, hmid, rfl⟩
    exact ⟨pre, post, hs, hpre, hmid⟩
  · rintro ⟨pre, post, hs, hpre, ht⟩
    exact ⟨pre, t, post, hs, hpre, ht, rfl⟩

theorem recordText_isOk_iff (span : StatementSpan) (sql : String) :
    (∃ t, span.recordText sql = .ok t) ↔ span.Fits sql := by
  simp only [recordText_eq_ok_iff_slice?, ← Option.isSome_iff_exists, Utf8.isSome_slice?_iff,
    Fits, Nat.le_add_right, true_and]

/-- Past the range, a span is cut as a span read from a split result. -/
theorem slice_eq_ok_iff (span : StatementSpan) (sql : String) (r : Except Error String) :
    span.slice sql = .ok r ↔ span.location + span.length ≤ usizeMax ∧ span.recordText sql = r := by
  unfold slice range
  by_cases h : span.location + span.length ≤ usizeMax
  · simp [h, Except.map, recordText]
  · simp [h, Except.map]

example : (⟨0, 11⟩ : StatementSpan).slice "select 'é'; select 'ü'" = .ok (.ok "select 'é'") :=
  (slice_eq_ok_iff _ _ _).2
    ⟨by decide, (recordText_eq_ok_iff _ _ _).2 ⟨"", "; select 'ü'", by decide, by decide, by decide⟩⟩

end StatementSpan

namespace Parser

variable {σ : Type}

/-- A split fails with the error of its spans, or else with the error of the first span that
cannot be cut out of the text. -/
theorem split_eq_error_iff (e : Engine σ) (sql : String) (a : SplitAlgorithm) (s s' : σ)
    (err : Error) :
    split e sql a s = .ok (.error err) s' ↔
      splitSpans e sql a s = .ok (.error err) s' ∨
      ∃ spans, splitSpans e sql a s = .ok (.ok spans) s' ∧
        ∃ pre span post, spans = pre ++ span :: post ∧
          (∀ x ∈ pre, ∃ t, x.recordText sql = .ok t) ∧ span.recordText sql = .error err := by
  rw [split_eq]
  show EStateM.map _ _ s = _ ↔ _
  unfold EStateM.map
  rcases splitSpans e sql a s with ⟨_ | spans, t⟩ | ⟨p, t⟩
  · simp [bind, Except.bind]
  · simp only [bind, Except.bind, EStateM.Result.ok.injEq, mapM_eq_error_iff, reduceCtorEq,
      false_and, false_or, Except.ok.injEq, and_assoc, exists_eq_left']
    exact and_comm
  · simp

end Parser
end PgBinding
