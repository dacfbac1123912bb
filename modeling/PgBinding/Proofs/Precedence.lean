import Mathlib
import PgBinding.Proofs.Operation
/-!
# Which error an operation reports

An operation decides its outcome in a fixed order. Its input's precondition comes first, and a
failed one is reported before anything is dispatched. Then an optional entry point the engine
lacks is reported as unsupported. Then the error record of the result, when there is one, is
reported without the payload being read. Only then is the payload materialized, and the
materializer's value or error is the answer.

`Operation.exec_decides_in_order` states this order for every operation, engine and state,
together with what the list materializers guarantee: a list is answered only when every one of
its elements was copied out. `Engine.entry_eq_none` says that only the two optional entry points
can be missing.
-/
namespace PgBinding

/-! ## Traversals that stop at the first error -/

section Traverse

variable {α β ε : Type}

theorem bind_eq_ok_iff {γ : Type} (x : Except ε α) (f : α → Except ε γ) (c : γ) :
    x >>= f = .ok c ↔ ∃ a, x = .ok a ∧ f a = .ok c := by
  cases x with
  | error err => simp only [bind, Except.bind, reduceCtorEq, false_and, exists_false]
  | ok a => simp only [bind, Except.bind, Except.ok.injEq, exists_eq_left']

/-- A traversal succeeds exactly when every element does, with the results in order. -/
theorem mapM_eq_ok_iff (f : α → Except ε β) (xs : List α) (ys : List β) :
    xs.mapM f = .ok ys ↔ List.Forall₂ (fun x y => f x = .ok y) xs ys := by
  induction xs generalizing ys with
  | nil => cases ys <;> simp [pure, Except.pure]
  | cons x xs ih =>
    rw [List.mapM_cons, bind_eq_ok_iff, List.forall₂_cons_left_iff]
    constructor
    · rintro ⟨y, hx, hrest⟩
      obtain ⟨zs, hxs, hys⟩ := (bind_eq_ok_iff _ _ _).1 hrest
      exact ⟨y, zs, hx, (ih zs).1 hxs, (Except.ok.inj hys).symm⟩
    · rintro ⟨y, zs, hx, hxs, rfl⟩
      exact ⟨y, hx, (bind_eq_ok_iff _ _ _).2 ⟨zs, (ih zs).2 hxs, rfl⟩⟩

theorem bind_eq_error_iff {γ : Type} (x : Except ε α) (f : α → Except ε γ) (e : ε) :
    x >>= f = .error e ↔ x = .error e ∨ ∃ a, x = .ok a ∧ f a = .error e := by
  cases x with
  | error e' =>
    simp only [bind, Except.bind, Except.error.injEq, reduceCtorEq, false_and, exists_false,
      or_false]
  | ok a => simp only [bind, Except.bind, reduceCtorEq, Except.ok.injEq, exists_eq_left', false_or]

/-- A traversal fails exactly at its first element that fails, with that element's error. -/
theorem mapM_eq_error_iff (f : α → Except ε β) (xs : List α) (e : ε) :
    xs.mapM f = .error e ↔
      ∃ pre x post, xs = pre ++ x :: post ∧ (∀ y ∈ pre, ∃ v, f y = .ok v) ∧ f x = .error e := by
  induction xs with
  | nil => simp [pure, Except.pure]
  | cons x xs ih =>
    rw [List.mapM_cons, bind_eq_error_iff]
    -- either the head fails, and it is the first failure, or it passes and the failure is later
    cases hx : f x with
    | error e' =>
      simp only [Except.error.injEq, reduceCtorEq, false_and, exists_false, or_false]
      constructor
      · rintro rfl
        exact ⟨[], x, xs, rfl, by simp, hx⟩
      · rintro ⟨_ | ⟨y, pre⟩, z, post, hxs, hpre, hz⟩
        · simp only [List.nil_append, List.cons.injEq] at hxs
          obtain ⟨rfl, rfl⟩ := hxs
          rw [hx] at hz
          exact Except.error.inj hz
        · simp only [List.cons_append, List.cons.injEq] at hxs
          obtain ⟨rfl, rfl⟩ := hxs
          obtain ⟨v, hv⟩ := hpre _ List.mem_cons_self
          rw [hx] at hv
          cases hv
    | ok v =>
      simp only [reduceCtorEq, Except.ok.injEq, exists_eq_left', false_or, bind_eq_error_iff,
        pure, Except.pure, or_false, exists_false, and_false]
      rw [ih]
      constructor
      · rintro ⟨pre, z, post, rfl, hpre, hz⟩
        refine ⟨x :: pre, z, post, rfl, ?_, hz⟩
        simp only [List.mem_cons, forall_eq_or_imp]
        exact ⟨⟨v, hx⟩, hpre⟩
      · rintro ⟨_ | ⟨y, pre⟩, z, post, hxs, hpre, hz⟩
        · simp only [List.nil_append, List.cons.injEq] at hxs
          obtain ⟨rfl, rfl⟩ := hxs
          rw [hx] at hz
          cases hz
        · simp only [List.cons_append, List.cons.injEq] at hxs
          obtain ⟨rfl, rfl⟩ := hxs
          exact ⟨pre, z, post, rfl, fun w hw => hpre w (by simp [hw]), hz⟩

end Traverse

/-! ## The list materializers -/

namespace Parser

open Materialize

/-- The statement spans of a split result are answered only when every statement record of the
array was copied out, in order. -/
theorem spansOf_eq_ok_iff (r : SplitReply) (spans : List StatementSpan) :
    spansOf r = .ok spans ↔
      ∃ count records, nonNegative "statement count" r.count = .ok count ∧
        pointerArray "statement list" r.stmts count = .ok records ∧
        List.Forall₂ (fun x y => spanOf x = .ok y) records spans := by
  unfold spansOf
  simp only [bind_eq_ok_iff, mapM_eq_ok_iff, exists_and_left]

/-- The comments of a comments result are answered only when every record of the array that is
not null was copied out, in order. -/
theorem commentsOf_eq_ok_iff (r : CommentsReply) (comments : List DeparseComment) :
    commentsOf r = .ok comments ↔
      ∃ records, pointerArray "comment list" r.comments r.count = .ok records ∧
        List.Forall₂ (fun x y => copyComment x = .ok y) (records.filterMap id) comments := by
  unfold commentsOf
  simp only [bind_eq_ok_iff, mapM_eq_ok_iff]

variable {σ : Type}

/-- Spans that are each cut out at their range give texts exactly as their record texts do. -/
theorem forall₂_slice_iff {sql : String} : ∀ {spans : List StatementSpan} {texts : List String},
    (∀ span ∈ spans, span.slice sql = .ok (span.recordText sql)) →
      (List.Forall₂ (fun span text => span.slice sql = .ok (.ok text)) spans texts ↔
        List.Forall₂ (fun span text => span.recordText sql = .ok text) spans texts)
  | [], texts, _ => by simp
  | span :: spans, texts, h => by
    cases texts with
    | nil => simp
    | cons t ts =>
      rw [List.forall₂_cons, List.forall₂_cons, h span List.mem_cons_self, Except.ok.injEq,
        forall₂_slice_iff fun x hx => h x (List.mem_cons_of_mem span hx)]

/-- A split answers statement texts only when every span the engine gave was cut out of the
input, in the state the spans leave. -/
theorem split_eq_ok_iff (e : Engine σ) (sql : String) (a : SplitAlgorithm) (s s' : σ)
    (texts : List String) :
    split e sql a s = .ok (.ok texts) s' ↔
      ∃ spans, splitSpans e sql a s = .ok (.ok spans) s' ∧
        List.Forall₂ (fun span text => span.slice sql = .ok (.ok text)) spans texts := by
  rw [split_eq]
  show EStateM.map _ _ s = _ ↔ _
  unfold EStateM.map
  rcases h : splitSpans e sql a s with ⟨_ | spans, t⟩ | ⟨p, t⟩
  · simp [bind, Except.bind]
  · -- the spans come from C ints, so each is cut out at its range
    have hslice : ∀ span ∈ spans, span.slice sql = .ok (span.recordText sql) :=
      fun span hspan => slice_of_le sql (splitSpans_end_le h span hspan)
    simp only [bind, Except.bind, EStateM.Result.ok.injEq, Except.ok.injEq, mapM_eq_ok_iff]
    constructor
    · rintro ⟨hmap, rfl⟩
      exact ⟨spans, ⟨rfl, rfl⟩, (forall₂_slice_iff hslice).2 hmap⟩
    · rintro ⟨_, ⟨rfl, rfl⟩, hall⟩
      exact ⟨(forall₂_slice_iff hslice).1 hall, rfl⟩
  · simp

end Parser

/-! ## Only optional entry points can be missing -/

variable {σ : Type}

theorem some_map_ne_none {α : Type} (c : Call σ α) (s s' : σ) :
    (some <$> c) s ≠ .ok none s' := by
  intro h
  simp only [Functor.map, EStateM.map] at h
  rcases hc : c s with ⟨a, t⟩ | ⟨p, t⟩ <;> simp [hc] at h

/-- An entry point that answers nothing is one of the two the engine may lack. -/
theorem Engine.entry_eq_none (e : Engine σ) (en : Entry) (arg : en.Argument) (s s' : σ)
    (h : e.entry en arg s = .ok none s') : en = .deparseComments ∨ en = .summary := by
  cases en
  case deparseComments => exact .inl rfl
  case summary => exact .inr rfl
  all_goals exact absurd h (some_map_ne_none _ s s')

namespace Operation

/-! ## The order of the checks -/

/-- Every operation reports, in this order: its input's precondition, with the state untouched;
an entry point the engine lacks; the error record of a result, whatever its payload; and only
then the materializer's answer. A list answer comes only from every one of its elements. -/
theorem exec_decides_in_order :
    (∀ (e : Engine σ) (op : Operation) (s : σ),
      match op.argument with
      | .error p => op.exec e s = .ok (.error (.precondition p)) s
      | .ok arg =>
        match e.entry op.entry arg (e.note (Parser.dispatchRecord op.entry.shape) s) with
        | .ok none s' => op.exec e s = .ok (.error (.unsupported op.entry.symbol)) s'
        | .ok (some raw) _ =>
          ∃ s', op.exec e s = .ok (Parser.outcome op.entry.errorOf op.materialize raw) s'
        | .error panic s' => op.exec e s = .error panic s') ∧
    (∀ r spans, Parser.spansOf r = .ok spans ↔
      ∃ count records, Materialize.nonNegative "statement count" r.count = .ok count ∧
        Materialize.pointerArray "statement list" r.stmts count = .ok records ∧
        List.Forall₂ (fun x y => Parser.spanOf x = .ok y) records spans) ∧
    (∀ r comments, Parser.commentsOf r = .ok comments ↔
      ∃ records, Materialize.pointerArray "comment list" r.comments r.count = .ok records ∧
        List.Forall₂ (fun x y => Parser.copyComment x = .ok y) (records.filterMap id) comments) ∧
    (∀ (e : Engine σ) sql a s s' texts, Parser.split e sql a s = .ok (.ok texts) s' ↔
      ∃ spans, Parser.splitSpans e sql a s = .ok (.ok spans) s' ∧
        List.Forall₂ (fun span text => span.slice sql = .ok (.ok text)) spans texts) := by
  refine ⟨?_, Parser.spansOf_eq_ok_iff, Parser.commentsOf_eq_ok_iff, Parser.split_eq_ok_iff⟩
  intro e op s
  have hexec := exec_apply e op s
  cases harg : op.argument with
  | error p => simpa only [harg] using hexec
  | ok arg =>
    simp only [harg] at hexec
    rcases hent : e.entry op.entry arg (e.note (Parser.dispatchRecord op.entry.shape) s) with
      ⟨_ | raw, s'⟩ | ⟨panic, s'⟩
    · simpa only [hent] using hexec
    · -- a dispatched result goes through its lifecycle, whose answer is the outcome
      simp only [hent] at hexec ⊢
      obtain ⟨s'', hextract, -⟩ :=
        Parser.extract_apply e op.entry.shape op.entry.errorOf op.materialize raw s'
      exact ⟨s'', hexec.trans hextract⟩
    · simpa only [hent] using hexec

end Operation

end PgBinding
