import Mathlib
import PgBinding.Cli.Failure
/-!
# Engine errors as reports

An engine error is copied out of the native record the engine returns, and the command line tool
places it on the query text it was reported for. The statement this file exists for is
`engine_errors_reported_faithfully`: the two translations chained, from the record's fields to
the report's message and mark, for every record and every text, with every other error handed
on untouched.

Two facts carry it. Lossy decoding gives nothing only for nothing (`Utf8.lossy_eq_empty_iff`),
so the fallback message is taken exactly for a null or empty message and a report never has an
empty one. And the cursor's mark is cut to the end of the text (`Cli.cursorSpan_within`), so a
cursor one past the end, or far beyond it, marks the empty span at the end.
-/
namespace PgBinding

namespace Utf8

/-- Lossy decoding writes something for every octet and for a character cut short, so it ends
with nothing only when it started with nothing. -/
theorem lossyGo_eq_nil_iff (p : Option Pending) (bs : Bytes) (acc : List Char) :
    lossyGo p bs acc = [] ↔ p = none ∧ bs = [] ∧ acc = [] := by
  fun_induction lossyGo p bs acc <;> simp_all

theorem lossy_eq_empty_iff (bs : Bytes) : lossy bs = "" ↔ bs = [] := by
  rw [lossy, String.ofList_eq_empty_iff, lossyChars, lossyGo_eq_nil_iff]
  simp

end Utf8

namespace EngineError

/-- The message of a copied record: the lossy text of a non-null, non-empty message, else the
fallback. -/
theorem ofNative_message (r : NativeError) :
    (ofNative r).message = match r.message with
      | some (b :: bs) => Utf8.lossy (b :: bs)
      | _ => fallbackMessage := by
  rcases hm : r.message with _ | _ | ⟨b, bs⟩
  · simp [ofNative, hm]
  · simp [ofNative, hm, Utf8.lossy_eq_empty_iff]
  · have hne : ¬ (Utf8.lossy (b :: bs)).isEmpty := by
      rw [String.isEmpty_iff, Utf8.lossy_eq_empty_iff]
      exact List.cons_ne_nil b bs
    simp [ofNative, hm, hne]

theorem ofNative_message_ne_empty (r : NativeError) : (ofNative r).message ≠ "" := by
  rw [ofNative_message]
  split
  · rw [ne_eq, Utf8.lossy_eq_empty_iff]
    exact List.cons_ne_nil _ _
  · decide

/-- A C int read as a count: its value when not negative, else 0. -/
theorem clampNonNegative_toInt (v : Int32) : (clampNonNegative v : Int) = max v.toInt 0 :=
  Int.toNat_eq_max v.toInt

/-- The source location names the file whenever there is one, with the line when it is known;
without a file it names a known line, and otherwise nothing. -/
theorem sourceLocation_eq (e : EngineError) :
    e.sourceLocation = match e.file with
      | some f => some (if e.line = 0 then f else s!"{f}:{e.line}")
      | none => if e.line = 0 then none else some s!"line {e.line}" := by
  unfold sourceLocation
  rcases e.file with _ | f <;> by_cases hl : e.line = 0 <;> simp [hl]

end EngineError

namespace Cli

theorem cursorSpan_eq_none_iff (c : Nat) (source : String) : cursorSpan c source = none ↔ c = 0 := by
  unfold cursorSpan
  split <;> simp_all

/-- A known cursor marks the byte before it, or the empty span at the end of the text once the
cursor is past its last byte. -/
theorem cursorSpan_of_ne_zero {c : Nat} (h : c ≠ 0) (source : String) :
    cursorSpan c source = some (min (c - 1) source.utf8ByteSize,
      if c - 1 < source.utf8ByteSize then 1 else 0) := by
  have hmin : (min (c - 1) source.utf8ByteSize < source.utf8ByteSize) ↔
      c - 1 < source.utf8ByteSize := by
    omega
  simp only [cursorSpan, if_neg h, hmin]

/-- A mark always lies within the text. -/
theorem cursorSpan_within {c offset length : Nat} {source : String}
    (h : cursorSpan c source = some (offset, length)) :
    offset + length ≤ source.utf8ByteSize := by
  have hc : c ≠ 0 := fun h0 => by simp [(cursorSpan_eq_none_iff c source).2 h0] at h
  rw [cursorSpan_of_ne_zero hc, Option.some.injEq, Prod.mk.injEq] at h
  obtain ⟨rfl, rfl⟩ := h
  split <;> omega

/-- Every error the engine did not report is handed on as it is. -/
theorem Failure.ofError_of_asEngine?_eq_none {e : Error} (h : e.asEngine? = none)
    (name source : String) : Failure.ofError name source e = .binding e := by
  cases e <;> simp_all [Error.asEngine?, Failure.ofError]

end Cli

/-- A native error record, copied out and placed on any query text: the message is the record's
when it has one and never empty, the other texts are decoded as they are, negative numbers
become 0, the source location says what is known, and the report marks the byte before the
cursor within the text, or nothing when the cursor is unknown. Any other error reaches the
report as it is. -/
theorem engine_errors_reported_faithfully (r : NativeError) (name source : String) :
    let e := EngineError.ofNative r
    (e.message = match r.message with
        | some (b :: bs) => Utf8.lossy (b :: bs)
        | _ => EngineError.fallbackMessage) ∧
    e.message ≠ "" ∧
    e.function = r.funcname.map Utf8.lossy ∧ e.file = r.filename.map Utf8.lossy ∧
    e.context = r.context.map Utf8.lossy ∧
    (e.line : Int) = max r.lineno.toInt 0 ∧ (e.cursorPosition : Int) = max r.cursorpos.toInt 0 ∧
    e.sourceLocation = (match e.file with
      | some f => some (if e.line = 0 then f else s!"{f}:{e.line}")
      | none => if e.line = 0 then none else some s!"line {e.line}") ∧
    (∃ span, Cli.Failure.ofError name source (.engine e) =
        .query ⟨name, source, span, e.message, e.context⟩ ∧
      (span = none ↔ e.cursorPosition = 0) ∧
      ∀ offset length, span = some (offset, length) →
        offset = min (e.cursorPosition - 1) source.utf8ByteSize ∧
        length = (if e.cursorPosition - 1 < source.utf8ByteSize then 1 else 0) ∧
        offset + length ≤ source.utf8ByteSize) ∧
    ∀ err : Error, err.asEngine? = none →
      Cli.Failure.ofError name source err = .binding err := by
  intro e
  refine ⟨EngineError.ofNative_message r, EngineError.ofNative_message_ne_empty r, rfl, rfl, rfl,
    EngineError.clampNonNegative_toInt r.lineno, EngineError.clampNonNegative_toInt r.cursorpos,
    EngineError.sourceLocation_eq e, ⟨_, rfl, Cli.cursorSpan_eq_none_iff _ source, ?_⟩,
    fun err h => Cli.Failure.ofError_of_asEngine?_eq_none h name source⟩
  intro offset length hspan
  have hc : e.cursorPosition ≠ 0 := fun h0 => by
    simp [(Cli.cursorSpan_eq_none_iff _ source).2 h0] at hspan
  have hwithin := Cli.cursorSpan_within hspan
  rw [Cli.cursorSpan_of_ne_zero hc, Option.some.injEq, Prod.mk.injEq] at hspan
  exact ⟨hspan.1.symm, hspan.2.symm, hwithin⟩

end PgBinding
