import Mathlib
import PgBinding.Proofs.ToyComments
/-!
# Normalizing twice

The toy engine normalizes a text by dropping its comments and joining its words with single
spaces. What it answers is a normal text: words without blanks, in none of which a comment opens,
joined by single spaces (`normal_normalize`). A normal text normalizes to itself
(`normalize_of_normal`), so normalizing is idempotent as a function of texts.

Through the engine it is not. The engine checks the text it was given for a dangling `from` before
it normalizes, and normalizing can make one: a tab before `from` becomes a space, and a comment
after it goes away. Normalizing the answer again then reports a syntax error
(`normalizing_answer_again` says exactly when).
-/

namespace PgBinding
namespace Toy

open Text

/-! ## Text in which no comment opens -/

/-- `a` followed by `b` opens no comment. -/
def NoOpening (a b : Char) : Prop := ¬(a = '/' ∧ b = '*') ∧ ¬(a = '-' ∧ b = '-')

/-- Nothing opens a comment before a character that is neither a star nor a dash. -/
theorem NoOpening.of_right {a b : Char} (h₁ : b ≠ '*') (h₂ : b ≠ '-') : NoOpening a b :=
  ⟨fun h => h₁ h.2, fun h => h₂ h.2⟩

/-- Nothing opens a comment after a character that is neither a slash nor a dash. -/
theorem NoOpening.of_left {a b : Char} (h₁ : a ≠ '/') (h₂ : a ≠ '-') : NoOpening a b :=
  ⟨fun h => h₁ h.1, fun h => h₂ h.1⟩

theorem not_opensComment_of_isChain {c : Char} {cs : List Char}
    (h : (c :: cs).IsChain NoOpening) : ¬OpensComment (c :: cs) := by
  rintro (⟨r, hr⟩ | ⟨r, hr⟩) <;>
  · obtain ⟨rfl, rfl⟩ := List.cons_eq_cons.1 hr
    have := List.isChain_cons_cons.1 h
    simp [NoOpening] at this

/-- A text in which no comment opens is left as it is by the stripper. -/
theorem stripFrom_of_isChain {cs : List Char} (h : cs.IsChain NoOpening) :
    stripFrom .code cs = cs := by
  induction cs with
  | nil => rfl
  | cons c cs ih =>
    rw [stripFrom_code_cons (not_opensComment_of_isChain h), ih h.tail]

/-! ## What the stripper leaves -/

/-- Dropping a line comment leaves its newline, or nothing, first. -/
theorem head_stripFrom_line (cs : List Char) : ∀ x ∈ (stripFrom .line cs).head?, x = '\n' := by
  induction cs with
  | nil => simp [stripFrom]
  | cons c cs ih =>
    rw [stripFrom]
    split_ifs with hc
    · simp [hc]
    · exact ih

/-- The stripper never leaves a comment opening, and in code what it leaves first is a blank
standing for a comment, a newline that ended one, or the first character. The induction follows
the stripper's own recursion; the second part is what the code case needs of the call it makes. -/
theorem isChain_stripFrom (m : StripMode) (cs : List Char) :
    (stripFrom m cs).IsChain NoOpening ∧
      ∀ x ∈ (stripFrom m cs).head?, m = .code → x = ' ' ∨ x = '\n' ∨ x ∈ cs.head? := by
  fun_induction stripFrom m cs with
  | case1 rest ih =>
    refine ⟨ih.1.cons fun y _ => NoOpening.of_left (by decide) (by decide), by simp⟩
  | case2 rest ih =>
    refine ⟨ih.1, fun x hx _ => .inr (.inl (head_stripFrom_line rest x hx))⟩
  | case3 c rest hblock hline ih =>
    -- the character kept is followed by what the stripper leaves of the rest
    have hnext : ∀ y ∈ (stripFrom .code rest).head?, NoOpening c y := by
      intro y hy
      rcases ih.2 y hy rfl with rfl | rfl | hy
      · exact NoOpening.of_right (by decide) (by decide)
      · exact NoOpening.of_right (by decide) (by decide)
      · obtain ⟨r, rfl⟩ : ∃ r, rest = y :: r := by
          cases rest with
          | nil => simp at hy
          | cons z r => exact ⟨r, by simpa using hy⟩
        exact ⟨fun h => hblock r h.1 (h.2 ▸ rfl), fun h => hline r h.1 (h.2 ▸ rfl)⟩
    exact ⟨ih.1.cons hnext, by simp⟩
  | case4 star c rest hclose ih => exact ⟨ih.1, fun _ _ h => by cases h⟩
  | case5 star c rest hopen ih => exact ⟨ih.1, fun _ _ h => by cases h⟩
  | case6 rest ih =>
    exact ⟨ih.1.cons fun y _ => NoOpening.of_left (by decide) (by decide), by simp⟩
  | case7 c rest hc ih => exact ⟨ih.1, fun _ _ h => by cases h⟩
  | case8 m => exact ⟨List.isChain_nil, by simp⟩

/-! ## Words -/

/-- Non-blank characters join the word being read. -/
theorem wordsFrom_append_of_nonblank {w : List Char} (hw : ∀ c ∈ w, isBlank c = false)
    (cur rest : List Char) : wordsFrom cur (w ++ rest) = wordsFrom (w.reverse ++ cur) rest := by
  induction w generalizing cur with
  | nil => rfl
  | cons c w ih =>
    rw [List.cons_append, wordsFrom, if_neg (by simp [hw c List.mem_cons_self]),
      ih (fun x hx => hw x (List.mem_cons_of_mem c hx))]
    simp

/-- A word is not empty and holds no blank. -/
theorem mem_wordsFrom {cur cs w : List Char} (hcur : ∀ c ∈ cur, isBlank c = false)
    (hw : w ∈ wordsFrom cur cs) : w ≠ [] ∧ ∀ c ∈ w, isBlank c = false := by
  induction cs generalizing cur with
  | nil =>
    rw [wordsFrom] at hw
    split_ifs at hw with hempty
    · simp at hw
    · rw [List.mem_singleton.1 hw]
      exact ⟨by simpa using hempty, fun c hc => hcur c (List.mem_reverse.1 hc)⟩
  | cons x rest ih =>
    rw [wordsFrom] at hw
    split_ifs at hw with hblank hempty
    · exact ih (fun _ hc => absurd hc List.not_mem_nil) hw
    · rcases List.mem_cons.1 hw with rfl | hw
      · exact ⟨by simpa using hempty, fun c hc => hcur c (List.mem_reverse.1 hc)⟩
      · exact ih (fun _ hc => absurd hc List.not_mem_nil) hw
    · refine ih (fun c hc => ?_) hw
      rcases List.mem_cons.1 hc with rfl | hc
      · simpa using hblank
      · exact hcur c hc

/-- A word is a piece of the word begun and the input. -/
theorem infix_of_mem_wordsFrom {cur cs w : List Char} (hw : w ∈ wordsFrom cur cs) :
    w <:+: cur.reverse ++ cs := by
  induction cs generalizing cur with
  | nil =>
    rw [wordsFrom] at hw
    split_ifs at hw
    · simp at hw
    · rw [List.mem_singleton.1 hw]
      exact (List.prefix_append _ _).isInfix
  | cons x rest ih =>
    have hrest : rest <:+ cur.reverse ++ x :: rest := ⟨cur.reverse ++ [x], by simp⟩
    rw [wordsFrom] at hw
    split_ifs at hw
    · exact (by simpa using ih hw : w <:+: rest).trans hrest.isInfix
    · rcases List.mem_cons.1 hw with rfl | hw
      · exact (List.prefix_append _ _).isInfix
      · exact (by simpa using ih hw : w <:+: rest).trans hrest.isInfix
    · simpa using ih hw

/-- Words of non-blank characters joined by single spaces are read back as those words. -/
theorem wordsOf_intercalate : {ws : List (List Char)} →
    (∀ w ∈ ws, w ≠ [] ∧ ∀ c ∈ w, isBlank c = false) → wordsOf ([' '].intercalate ws) = ws
  | [], _ => rfl
  | [w], h => by
    obtain ⟨hne, hw⟩ := h w List.mem_cons_self
    have hread := wordsFrom_append_of_nonblank hw [] []
    rw [List.append_nil, List.append_nil] at hread
    rw [List.intercalate_singleton, wordsOf, hread, wordsFrom, if_neg (by simpa using hne),
      List.reverse_reverse]
  | w :: w' :: ws, h => by
    obtain ⟨hne, hw⟩ := h w List.mem_cons_self
    have hspace : isBlank ' ' = true := by decide
    rw [List.intercalate_cons_cons, wordsOf, List.append_assoc, wordsFrom_append_of_nonblank hw,
      List.append_nil, List.singleton_append, wordsFrom, if_pos hspace,
      if_neg (by simpa using hne), List.reverse_reverse]
    exact congrArg (w :: ·) (wordsOf_intercalate fun v hv => h v (List.mem_cons_of_mem w hv))

/-- Joining words in which no comment opens by single spaces opens none. -/
theorem isChain_intercalate : {ws : List (List Char)} → (∀ w ∈ ws, w.IsChain NoOpening) →
    ([' '].intercalate ws).IsChain NoOpening
  | [], _ => List.isChain_nil
  | [w], h => by simpa using h w List.mem_cons_self
  | w :: w' :: ws, h => by
    rw [List.intercalate_cons_cons, List.append_assoc]
    refine (h w List.mem_cons_self).append ?_ fun x _ y hy => NoOpening.of_right ?_ ?_
    · refine (isChain_intercalate fun v hv => h v (List.mem_cons_of_mem w hv)).cons
        fun y _ => NoOpening.of_left (by decide) (by decide)
    all_goals
      rw [List.singleton_append, List.head?_cons, Option.mem_some_iff] at hy
      subst hy
      decide

/-! ## Normal texts -/

/-- A normal text: words without blanks, in none of which a comment opens, joined by single
spaces. -/
def Normal (s : String) : Prop :=
  ∃ ws : List (List Char), (∀ w ∈ ws, w ≠ [] ∧ (∀ c ∈ w, isBlank c = false) ∧ w.IsChain NoOpening) ∧
    s.toList = [' '].intercalate ws

theorem normal_normalize (sql : String) : Normal (normalize sql) := by
  refine ⟨wordsOf (stripFrom .code sql.toList), fun w hw => ?_, ?_⟩
  · obtain ⟨hne, hblank⟩ := mem_wordsFrom (fun _ hc => absurd hc List.not_mem_nil) hw
    have hinfix : w <:+: stripFrom .code sql.toList := by simpa using infix_of_mem_wordsFrom hw
    exact ⟨hne, hblank, List.IsChain.infix (isChain_stripFrom .code sql.toList).1 hinfix⟩
  · rw [normalize, String.toList_intercalate, List.map_map]
    simp [Function.comp_def]

theorem normalize_of_normal {s : String} (h : Normal s) : normalize s = s := by
  obtain ⟨ws, hws, hs⟩ := h
  have hstrip : stripFrom .code s.toList = s.toList := by
    rw [hs]
    exact stripFrom_of_isChain (isChain_intercalate fun w hw => (hws w hw).2.2)
  have hwords : wordsOf s.toList = ws := by
    rw [hs]
    exact wordsOf_intercalate fun w hw => ⟨(hws w hw).1, (hws w hw).2.1⟩
  rw [← String.toList_inj, normalize, hstrip, hwords, String.toList_intercalate, List.map_map, hs]
  simp [Function.comp_def]

/-- Normalizing a normalized text changes nothing. -/
theorem normalize_normalize (sql : String) : normalize (normalize sql) = normalize sql :=
  normalize_of_normal (normal_normalize sql)

/-! ## Normalizing through the default engine -/

/-- The syntax error the toy engine reports for a dangling `from`, with its cursor. -/
def danglingFromError (cursor : Nat) : Error :=
  .engine (EngineError.ofNative (scannerError "syntax error at end of input" (Int32.ofNat cursor)))

/-- Without a dangling `from`, the default engine answers a text without NUL normalized. -/
theorem normalize_default {sql : String} (hnul : '\x00' ∉ sql.toList)
    (hc : syntaxErrorCursor sql = none) (s : State) :
    ∃ t, Parser.normalize (engine {}) sql s = .ok (.ok (normalize sql)) t := by
  obtain ⟨t, hcall⟩ : ∃ t, (engine {}).normalize (Utf8.encode sql)
      ((engine {}).note (Parser.dispatchRecord .normalize) s) =
      .ok { text := some (Utf8.encode (normalize sql)) } t := by
    simp only [engine, bind, EStateM.bind, dispatch_run, input_run (Utf8.decode_encode sql),
      syntaxError_of_none hc, allocText_run {} (nul_not_mem_normalize hnul), Bool.false_eq_true,
      if_false, List.append_nil]
    exact ⟨_, rfl⟩
  have herr : (fun r : TextReply => r.error) { text := some (Utf8.encode (normalize sql)) } = none :=
    rfl
  obtain ⟨t', ht'⟩ := Parser.run_of_answer (engine {}) .normalize
    (fun r => Materialize.utf8String "normalized query" r.text) hcall herr
  have hread : Materialize.utf8String "normalized query" (some (Utf8.encode (normalize sql))) =
      .ok (normalize sql) := (Materialize.utf8String_eq_ok_iff _ _ _).2 rfl
  exact ⟨t', by rw [Parser.normalize, ofText_of_no_nul hnul, ← hread]; exact ht'⟩

/-- A dangling `from` is answered with the syntax error just past its statement. -/
theorem normalize_default_of_syntaxError {sql : String} (hnul : '\x00' ∉ sql.toList) {cursor : Nat}
    (hc : syntaxErrorCursor sql = some cursor) (s : State) :
    ∃ t, Parser.normalize (engine {}) sql s = .ok (.error (danglingFromError cursor)) t := by
  obtain ⟨t, hcall⟩ : ∃ t, (engine {}).normalize (Utf8.encode sql)
      ((engine {}).note (Parser.dispatchRecord .normalize) s) =
      .ok { error := some (scannerError "syntax error at end of input" (Int32.ofNat cursor)) } t := by
    simp only [engine, bind, EStateM.bind, dispatch_run, input_run (Utf8.decode_encode sql),
      syntaxError_of_some hc]
    exact ⟨_, rfl⟩
  have herr : (fun r : TextReply => r.error)
      { error := some (scannerError "syntax error at end of input" (Int32.ofNat cursor)) } =
      some (scannerError "syntax error at end of input" (Int32.ofNat cursor)) := rfl
  obtain ⟨t', ht'⟩ := Parser.run_of_error (engine {}) .normalize
    (fun r => Materialize.utf8String "normalized query" r.text) hcall herr
  exact ⟨t', by rw [Parser.normalize, ofText_of_no_nul hnul]; exact ht'⟩

/-- What the default engine answers normalizing a text without NUL is the text normalized, and it
answers only when no statement ends in a dangling `from`. -/
theorem eq_normalize_of_answer {sql n : String} (hnul : '\x00' ∉ sql.toList) {s t : State}
    (h : Parser.normalize (engine {}) sql s = .ok (.ok n) t) :
    n = normalize sql ∧ syntaxErrorCursor sql = none := by
  cases hc : syntaxErrorCursor sql with
  | none =>
    obtain ⟨t₁, h₁⟩ := normalize_default hnul hc s
    rw [h₁] at h
    exact ⟨(Except.ok.inj (EStateM.Result.ok.inj h).1).symm, rfl⟩
  | some cursor =>
    obtain ⟨t₁, h₁⟩ := normalize_default_of_syntaxError hnul hc s
    rw [h₁] at h
    exact nomatch (EStateM.Result.ok.inj h).1

/-- Normalizing a text without NUL through the default engine, then normalizing its answer. The
answer is the text normalized, which normalizes to itself. Normalizing it again answers it
unchanged exactly when none of its statements ends in a dangling `from`, and otherwise reports the
syntax error just past the first such statement: normalizing can make a dangling `from`, which the
engine looks for in the text it is given. -/
theorem normalizing_answer_again (sql : String) (hnul : '\x00' ∉ sql.toList) (s : State)
    {n : String} {t : State} (h : Parser.normalize (engine {}) sql s = .ok (.ok n) t) (s' : State) :
    n = normalize sql ∧ normalize n = n ∧
      (syntaxErrorCursor n = none ↔ ∃ t', Parser.normalize (engine {}) n s' = .ok (.ok n) t') ∧
      ∀ cursor, syntaxErrorCursor n = some cursor →
        ∃ t', Parser.normalize (engine {}) n s' = .ok (.error (danglingFromError cursor)) t' := by
  obtain ⟨rfl, -⟩ := eq_normalize_of_answer hnul h
  have hfixed := normalize_normalize sql
  have hnul' := nul_not_mem_normalize hnul
  refine ⟨rfl, hfixed, ⟨fun hc => ?_, fun hanswer => ?_⟩, fun cursor hc => ?_⟩
  · obtain ⟨t', ht'⟩ := normalize_default hnul' hc s'
    rw [hfixed] at ht'
    exact ⟨t', ht'⟩
  · obtain ⟨t', ht'⟩ := hanswer
    exact (eq_normalize_of_answer hnul' ht').2
  · exact normalize_default_of_syntaxError hnul' hc s'

/-- The text of the repository's own check, blanks and a comment around `select 1`, normalizes to
`select 1`, and normalizing that again answers it unchanged. -/
theorem select_one_normalizes_once :
    ∃ t, Parser.normalize (engine {}) " select  1 /* comment */ " {} = .ok (.ok "select 1") t ∧
      ∃ t', Parser.normalize (engine {}) "select 1" t = .ok (.ok "select 1") t' := by
  have hnul : '\x00' ∉ " select  1 /* comment */ ".toList := by decide +kernel
  have hnorm : normalize " select  1 /* comment */ " = "select 1" := by decide +kernel
  obtain ⟨t, ht⟩ := normalize_default hnul (by decide +kernel) {}
  rw [hnorm] at ht
  obtain ⟨-, -, hagain, -⟩ := normalizing_answer_again _ hnul {} ht t
  exact ⟨t, ht, hagain.1 (by decide +kernel)⟩

/-- A tab before `from` is no dangling `from` to the syntax check, but normalizing turns it into a
space, and normalizing the answer again reports the syntax error. -/
theorem tab_before_from_normalizes_into_error :
    ∃ t t', Parser.normalize (engine {}) "select\tfrom" {} = .ok (.ok "select from") t ∧
      Parser.normalize (engine {}) "select from" t = .ok (.error (danglingFromError 12)) t' := by
  obtain ⟨t, ht⟩ := @normalize_default "select\tfrom" (by decide +kernel) (by decide +kernel) {}
  have hnorm : normalize "select\tfrom" = "select from" := by decide +kernel
  rw [hnorm] at ht
  obtain ⟨t', ht'⟩ := @normalize_default_of_syntaxError "select from" (by decide +kernel) 12
    (by decide +kernel) t
  exact ⟨t, t', ht, ht'⟩

end Toy
end PgBinding
