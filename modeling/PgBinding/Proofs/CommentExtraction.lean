import Mathlib
import PgBinding.Proofs.CheckedLengths
import PgBinding.Proofs.DeparseComments

/-!
# Comments read out of an engine result

A comments result is a count and an array of records, each null or a comment's three C ints and
its C string. `commentsOf` reads it after the array's checks (`pointerArray`): a zero count is no
comments, a null array with a positive count and a count past the addressable lengths are out of
range. Then each of the first `count` records that is not null is copied, in order; null records
are skipped, where a split result's null records stand for empty spans.

A record is copied field by field when its three numbers are not negative and its text is null or
UTF-8 (`CommentRecord.Copies`, `CommentRecord.Readable`); otherwise it is refused at its first bad
field: the location, the newlines before, the newlines after, then the text
(`CommentRecord.Refuses`). `extract_comments_materialized` states what extracting comments answers
for every engine answer without an error.
-/

namespace PgBinding

open Materialize

/-- The C int fields of a comment record, named as they are refused, in the order they are
checked. -/
def CommentRecord.intFields (x : CommentRecord) : List (String × Int32) :=
  [("comment location", x.matchLocation), ("comment newlines", x.newlinesBefore),
    ("comment newlines", x.newlinesAfter)]

/-- A record that can be copied: its numbers are not negative and its C string is null or
UTF-8. -/
def CommentRecord.Readable (x : CommentRecord) : Prop :=
  (∀ f ∈ x.intFields, 0 ≤ f.2.toInt) ∧ ∃ s, x.text.getD [] = Utf8.encode s

/-- A record copied as a comment: the comment's numbers are the record's, and its text is the
record's C string, the empty text for a null one. -/
def CommentRecord.Copies (x : CommentRecord) (c : Parser.DeparseComment) : Prop :=
  x.matchLocation.toInt = c.matchLocation.toNat ∧ x.newlinesBefore.toInt = c.newlinesBefore.toNat ∧
    x.newlinesAfter.toInt = c.newlinesAfter.toNat ∧ x.text.getD [] = Utf8.encode c.text

/-- Why a record is refused: its first negative number in the order of `intFields`, else a C
string that is not UTF-8. -/
def CommentRecord.Refuses (x : CommentRecord) (err : Error) : Prop :=
  (∃ pre what v post, x.intFields = pre ++ (what, v) :: post ∧ (∀ f ∈ pre, 0 ≤ f.2.toInt) ∧
    v.toInt < 0 ∧ err = .outOfRange what v.toInt) ∨
  ((∀ f ∈ x.intFields, 0 ≤ f.2.toInt) ∧
    ∃ bs e, x.text = some bs ∧ Utf8.decode bs = .error e ∧ err = .invalidUtf8 "comment text" e)

/-! ## Fields -/

theorem mapM_exists_ok_iff {α β ε : Type} (f : α → Except ε β) (xs : List α) :
    (∃ ys, xs.mapM f = .ok ys) ↔ ∀ x ∈ xs, ∃ y, f x = .ok y := by
  constructor
  · rintro ⟨ys, h⟩
    have hpairs := ((mapM_eq_ok_iff f xs ys).1 h).imp fun x y (hxy : f x = .ok y) =>
      (⟨⟨y, hxy⟩, hxy⟩ : (∃ y, f x = .ok y) ∧ f x = .ok y)
    exact ((List.forall₂_and_left _ _).1 hpairs).1
  · exact mapM_exists_ok

theorem Utf8.decode_nil : Utf8.decode [] = .ok "" := rfl

namespace Materialize

theorem nonNegative_exists_ok_iff (what : String) (v : Int32) :
    (∃ n, nonNegative what v = .ok n) ↔ 0 ≤ v.toInt := by
  simp only [Parser.nonNegative_eq_ok_iff]
  constructor
  · rintro ⟨n, hn⟩
    omega
  · intro h
    exact ⟨v.toInt.toNat, by omega⟩

/-- A C string is read as the text it encodes, a null one as the empty text. -/
theorem utf8String_eq_ok_iff (what : String) (p : Option Bytes) (s : String) :
    utf8String what p = .ok s ↔ p.getD [] = Utf8.encode s := by
  cases p with
  | none =>
    rw [Option.getD_none, ← Utf8.decode_eq_ok_iff, Utf8.decode_nil]
    simp only [utf8String, Except.ok.injEq]
  | some bs => exact Parser.utf8String_some_eq_ok_iff what bs s

theorem utf8String_eq_error_iff (what : String) (p : Option Bytes) (err : Error) :
    utf8String what p = .error err ↔
      ∃ bs e, p = some bs ∧ Utf8.decode bs = .error e ∧ err = .invalidUtf8 what e := by
  cases p with
  | none => simp [utf8String]
  | some bs =>
    simp only [utf8String, Option.some.injEq, exists_and_left, exists_eq_left']
    cases Utf8.decode bs with
    | ok s => simp
    | error e => simp [eq_comm]

end Materialize

/-! ## Records -/

namespace Parser

variable {σ : Type}

theorem copyComment_eq_ok_iff_copies (x : CommentRecord) (c : DeparseComment) :
    copyComment x = .ok c ↔ x.Copies c := by
  have hl := x.matchLocation.toInt_lt
  have hb := x.newlinesBefore.toInt_lt
  have ha := x.newlinesAfter.toInt_lt
  simp only [copyComment, bind_eq_ok_iff, nonNegative_eq_ok_iff, utf8String_eq_ok_iff, pure,
    Except.pure, Except.ok.injEq, CommentRecord.Copies]
  constructor
  · rintro ⟨loc, hloc, before, hbefore, after, hafter, text, htext, rfl⟩
    refine ⟨?_, ?_, ?_, htext⟩ <;> simp <;> omega
  · rintro ⟨hloc, hbefore, hafter, htext⟩
    refine ⟨_, hloc.symm, _, hbefore.symm, _, hafter.symm, _, htext, ?_⟩
    simp

theorem copyComment_exists_ok_iff (x : CommentRecord) :
    (∃ c, copyComment x = .ok c) ↔ x.Readable := by
  simp only [copyComment_eq_ok_iff_copies, CommentRecord.Readable, CommentRecord.intFields,
    List.mem_cons, List.not_mem_nil, or_false, forall_eq_or_imp, forall_eq]
  constructor
  · rintro ⟨c, hloc, hbefore, hafter, htext⟩
    exact ⟨⟨by omega, by omega, by omega⟩, c.text, htext⟩
  · rintro ⟨⟨hloc, hbefore, hafter⟩, s, htext⟩
    exact ⟨⟨x.matchLocation.toInt.toNat.toUInt32, x.newlinesBefore.toInt.toNat.toUInt32,
      x.newlinesAfter.toInt.toNat.toUInt32, s⟩, (toNat_toUInt32_of_nonneg _ hloc).symm,
      (toNat_toUInt32_of_nonneg _ hbefore).symm, (toNat_toUInt32_of_nonneg _ hafter).symm, htext⟩

/-- A record fails its copy exactly as the checks of its numbers in order, then of its text. -/
theorem copyComment_failsAlike (x : CommentRecord) :
    FailsAlike (copyComment x)
      ((x.intFields.mapM fun f => nonNegative f.1 f.2) >>= fun _ =>
        utf8String "comment text" x.text) := by
  simp only [copyComment, CommentRecord.intFields, List.mapM_cons, List.mapM_nil, bind_assoc,
    pure_bind]
  conv => rhs; rw [← bind_pure (utf8String "comment text" x.text)]
  exact .bind (.refl _) fun _ _ => .bind (.refl _) fun _ _ => .bind (.refl _) fun _ _ =>
    .bind (.refl _) fun _ _ => .pure _ _

theorem copyComment_eq_error_iff (x : CommentRecord) (err : Error) :
    copyComment x = .error err ↔ x.Refuses err := by
  rw [copyComment_failsAlike x err, bind_eq_error_iff, mapM_eq_error_iff]
  simp only [nonNegative_eq_error_iff, utf8String_eq_error_iff, CommentRecord.Refuses, Prod.exists]
  apply or_congr
  · -- the first negative number, after numbers that pass
    simp only [nonNegative_exists_ok_iff]
  · -- every number passes, and the text is refused
    constructor
    · rintro ⟨vs, hvs, htext⟩
      have hall := (mapM_exists_ok_iff _ _).1 ⟨vs, hvs⟩
      exact ⟨fun f hf => (nonNegative_exists_ok_iff _ _).1 (hall f hf), htext⟩
    · rintro ⟨hall, htext⟩
      obtain ⟨vs, hvs⟩ := (mapM_exists_ok_iff _ _).2 fun f hf =>
        (nonNegative_exists_ok_iff _ _).2 (hall f hf)
      exact ⟨vs, hvs, htext⟩

/-! ## The list -/

/-- The checks of a comments result, in order: a zero count, then a null array or a count past
the addressable lengths, then each record that is not null among the first `count`. -/
theorem commentsOf_eq (r : CommentsReply) :
    commentsOf r =
      if r.count = 0 then .ok []
      else if r.comments = none ∨ Error.int64Max < r.count then
        .error (.outOfRange "comment list" (min r.count Error.int64Max))
      else r.records.mapM copyComment := by
  unfold commentsOf
  rw [pointerArray_eq]
  split_ifs <;> rfl

theorem CommentsReply.records_of_count_eq_zero {r : CommentsReply} (h : r.count = 0) :
    r.records = [] := by
  simp [CommentsReply.records, h]

/-- Past the array's checks, the array is there and its count addressable. -/
theorem CommentsReply.addressable_of_checks {r : CommentsReply}
    (hbad : ¬(r.comments = none ∨ Error.int64Max < r.count)) :
    r.comments.isSome ∧ r.count ≤ Error.int64Max := by
  rw [not_or, ← ne_eq, ← Option.isSome_iff_ne_none] at hbad
  exact ⟨hbad.1, Nat.le_of_not_lt hbad.2⟩

/-- The comments are answered only from an array that is there and addressable unless the count
is 0, and then they are the copies of the records that are not null, in order. -/
theorem commentsOf_eq_ok_iff_copies (r : CommentsReply) (cs : List DeparseComment) :
    commentsOf r = .ok cs ↔
      (r.count = 0 ∨ (r.comments.isSome ∧ r.count ≤ Error.int64Max)) ∧
        List.Forall₂ CommentRecord.Copies r.records cs := by
  rw [commentsOf_eq]
  split_ifs with hzero hbad
  · simp only [Except.ok.injEq, hzero, true_or, true_and,
      CommentsReply.records_of_count_eq_zero hzero, List.forall₂_nil_left_iff]
    exact eq_comm
  · simp only [false_iff, not_and]
    intro hcond
    rcases hbad with hnull | hbig
    · simp [hnull, hzero] at hcond
    · omega
  · rw [mapM_eq_ok_iff]
    simp only [copyComment_eq_ok_iff_copies]
    have haddr := CommentsReply.addressable_of_checks hbad
    exact ⟨fun h => ⟨.inr haddr, h⟩, fun h => h.2⟩

/-- The comments are answered exactly when the count is 0, or the array is there, the count is
addressable and every record that is not null among the first `count` can be copied. -/
theorem commentsOf_exists_ok_iff (r : CommentsReply) :
    (∃ cs, commentsOf r = .ok cs) ↔
      r.count = 0 ∨ (r.comments.isSome ∧ r.count ≤ Error.int64Max ∧
        ∀ x ∈ r.records, x.Readable) := by
  rw [commentsOf_eq]
  split_ifs with hzero hbad
  · simp [hzero]
  · simp only [exists_false, false_iff, not_or, not_and]
    refine ⟨hzero, fun hsome hle => ?_⟩
    rcases hbad with hnull | hbig
    · simp [hnull] at hsome
    · omega
  · rw [mapM_exists_ok_iff]
    simp only [copyComment_exists_ok_iff]
    obtain ⟨hsome, hle⟩ := CommentsReply.addressable_of_checks hbad
    exact ⟨fun h => .inr ⟨hsome, hle, h⟩, fun h => h.resolve_left hzero |>.2.2⟩

/-- The comments are refused for a null array with a positive count, for a count past the
addressable lengths, or at the first record that is not null and cannot be copied. -/
theorem commentsOf_eq_error_iff (r : CommentsReply) (err : Error) :
    commentsOf r = .error err ↔
      (0 < r.count ∧ r.comments = none ∧
        err = .outOfRange "comment list" (min r.count Error.int64Max)) ∨
      (r.comments.isSome ∧ Error.int64Max < r.count ∧
        err = .outOfRange "comment list" Error.int64Max) ∨
      (r.comments.isSome ∧ r.count ≤ Error.int64Max ∧
        ∃ pre x post, r.records = pre ++ x :: post ∧ (∀ y ∈ pre, y.Readable) ∧ x.Refuses err) := by
  rw [commentsOf_eq]
  split_ifs with hzero hbad
  · -- nothing is read from an array of no records
    simp [hzero, CommentsReply.records_of_count_eq_zero hzero]
  · -- the array's own checks fail
    rcases hc : r.comments with _ | xs
    · simp [Nat.pos_of_ne_zero hzero, eq_comm]
    · have hbig : Error.int64Max < r.count := by simpa [hc] using hbad
      have hclamp : min (r.count : Int) Error.int64Max = Error.int64Max := by omega
      simp [hbig, Nat.not_le.2 hbig, hclamp, eq_comm]
  · -- the array is read, and the first record that cannot be copied is refused
    obtain ⟨hsome, hle⟩ := CommentsReply.addressable_of_checks hbad
    have hnull : r.comments ≠ none := Option.isSome_iff_ne_none.1 hsome
    rw [mapM_eq_error_iff]
    simp only [copyComment_exists_ok_iff, copyComment_eq_error_iff, hsome, hle, hnull,
      Nat.not_lt.2 hle, true_and, false_and, and_false, false_or]

/-- Extracting comments, for every engine answer without an error: the answer is exactly what
`commentsOf` reads from the result. It answers comments exactly when the count is 0, or the
array is there, the count is addressable and every record that is not null among the first
`count` has numbers that are not negative and a null or UTF-8 C string; the comments are then
those records copied field by field, in order, null ones skipped. Otherwise it refuses a null
array with a positive count, reported with the count clamped; a count past the addressable
lengths, reported as the largest signed 64-bit value; or the first record that cannot be copied,
at its first bad field: the location, the newlines before, the newlines after, then the text. -/
theorem extract_comments_materialized (e : Engine σ) (sql : String) (buf : Buffer) (s s' : σ)
    (r : CommentsReply) (hbuf : Buffer.ofText sql = .ok buf)
    (hcall : e.deparseComments buf.content (e.note (dispatchRecord .deparseComments) s) =
      .ok (some r) s')
    (herr : r.error = none) :
    (∃ t, extractComments e sql s = .ok (commentsOf r) t) ∧
    ((∃ cs, commentsOf r = .ok cs) ↔
      r.count = 0 ∨ (r.comments.isSome ∧ r.count ≤ Error.int64Max ∧
        ∀ x ∈ r.records, x.Readable)) ∧
    (∀ cs, commentsOf r = .ok cs ↔
      (r.count = 0 ∨ (r.comments.isSome ∧ r.count ≤ Error.int64Max)) ∧
        List.Forall₂ CommentRecord.Copies r.records cs) ∧
    (∀ err, commentsOf r = .error err ↔
      (0 < r.count ∧ r.comments = none ∧
        err = .outOfRange "comment list" (min r.count Error.int64Max)) ∨
      (r.comments.isSome ∧ Error.int64Max < r.count ∧
        err = .outOfRange "comment list" Error.int64Max) ∨
      (r.comments.isSome ∧ r.count ≤ Error.int64Max ∧
        ∃ pre x post, r.records = pre ++ x :: post ∧ (∀ y ∈ pre, y.Readable) ∧
          x.Refuses err)) := by
  refine ⟨?_, commentsOf_exists_ok_iff r, commentsOf_eq_ok_iff_copies r, commentsOf_eq_error_iff r⟩
  rw [extractComments, hbuf]
  exact runOptional_of_answer e .deparseComments _ commentsOf hcall herr

/-- A comments answer with a null record, then a record whose newlines before are negative. -/
def negativeNewlinesReply : Scripted.Response :=
  { comments := some [none,
      some { matchLocation := 9, newlinesBefore := -1, text := some [0x2d, 0x2d, 0x20, 0x63] }] }

/-- The null record is skipped, and the next one is refused at its newlines before. -/
theorem negative_newlines_refused :
    ∃ t, extractComments Scripted.direct "select 1 -- c"
        (Scripted.State.ofScript [negativeNewlinesReply]) =
      .ok (.error (.outOfRange "comment newlines" (-1))) t := by
  have hbuf : Buffer.ofText "select 1 -- c" = .ok ⟨Utf8.encode "select 1 -- c", false⟩ := by
    rw [Buffer.ofText_eq, Utf8.idxOf?_encode_of_no_nul (by decide)]
  obtain ⟨⟨t, ht⟩, -, -, herror⟩ := extract_comments_materialized Scripted.direct "select 1 -- c"
    _ (Scripted.State.ofScript [negativeNewlinesReply]) _ negativeNewlinesReply.commentsReply hbuf
    rfl rfl
  have hrefused : commentsOf negativeNewlinesReply.commentsReply =
      .error (.outOfRange "comment newlines" (-1)) :=
    (herror _).2 (.inr (.inr ⟨rfl, by decide, [], _, [], rfl, by simp,
      .inl ⟨[("comment location", 9)], "comment newlines", -1, [("comment newlines", 0)], rfl,
        by decide, by decide, rfl⟩⟩))
  exact ⟨t, by rw [ht, hrefused]⟩

end Parser

end PgBinding
