import Mathlib
import PgBinding.Proofs.ToyLedger
import PgBinding.Proofs.Splitting
/-!
# The toy engine splits a batch into its non-blank pieces

A batch is its pieces joined by `;`, no piece holding a `;`. The toy engine answers the pieces
that are not blank, each at the byte offset where it starts and with its length in bytes, so the
layer cuts exactly those pieces back out of the text: no span is out of bounds or off a
character boundary, and the spans come in order with a separator between each two. Splitting
with the parser answers the same pieces unless one of them ends in a dangling `from`; then the
first such statement is reported, with the cursor just past it.

The cursor is an `int` on the engine side: for a dangling statement that ends at the last byte
of a batch of `2 ^ 31 - 1` bytes it is `2 ^ 31`, which wraps to a negative cursor, read back as
0.
-/

namespace PgBinding

namespace Text

/-- A text trims to nothing exactly when all its characters are blank. -/
theorem trim_eq_empty_iff (s : String) : trim s = "" ↔ ∀ c ∈ s.toList, isBlank c = true := by
  simp only [trim, trimEnd, String.ofList_eq_empty_iff, List.reverse_eq_nil_iff, dropBlanks,
    String.toList_ofList, List.dropWhile_eq_nil_iff, List.mem_reverse]
  constructor
  · intro h c hc
    rw [← List.takeWhile_append_dropWhile (p := isBlank) (l := s.toList), List.mem_append] at hc
    rcases hc with hc | hc
    · exact List.all_eq_true.1 List.all_takeWhile c hc
    · exact h c hc
  · intro h c hc
    exact h c ((List.dropWhile_sublist isBlank).subset hc)

end Text

namespace Parser

variable {σ α : Type}

/-- A result that carries an error record is answered with the engine's error. -/
theorem run_of_error (e : Engine σ) (sh : Shape) {inv : Call σ sh.Record}
    {err : sh.Record → Option NativeError} (mat : sh.Record → Except Error α) {s s' : σ}
    {raw : sh.Record} {record : NativeError}
    (hcall : inv (e.note (dispatchRecord sh) s) = .ok raw s') (herr : err raw = some record) :
    ∃ t, run e sh inv err mat s = .ok (.error (.engine (EngineError.ofNative record))) t := by
  obtain ⟨t, hx, -⟩ := extract_apply e sh err mat raw s'
  refine ⟨t, ?_⟩
  rw [run_apply, hcall]
  dsimp only
  rw [hx, outcome, herr]

end Parser

namespace Toy

open Text

theorem byteLength_eq_sum (cs : List Char) : byteLength cs = (cs.map Char.utf8Size).sum := rfl

theorem byteLength_append (a b : List Char) :
    byteLength (a ++ b) = byteLength a + byteLength b := by
  simp [byteLength_eq_sum]

theorem byteLength_eq_utf8ByteSize (cs : List Char) :
    byteLength cs = (String.ofList cs).utf8ByteSize := by
  rw [← Utf8.length_flatMap_encodeChar, List.length_flatMap]
  simp only [byteLength_eq_sum, String.length_utf8EncodeChar]

@[simp] theorem byteLength_nil : byteLength [] = 0 := rfl

@[simp] theorem byteLength_cons (c : Char) (cs : List Char) :
    byteLength (c :: cs) = c.utf8Size + byteLength cs := by
  simp [byteLength_eq_sum]

@[simp] theorem byteLength_reverse (cs : List Char) : byteLength cs.reverse = byteLength cs := by
  simp [byteLength_eq_sum, List.sum_reverse]

@[simp] theorem byteLength_toList (s : String) : byteLength s.toList = s.utf8ByteSize := by
  rw [byteLength_eq_utf8ByteSize, String.ofList_toList]

theorem length_le_byteLength (cs : List Char) : cs.length ≤ byteLength cs := by
  induction cs with
  | nil => exact le_refl 0
  | cons c cs ih =>
    have hc := Char.utf8Size_pos c
    rw [byteLength_cons, List.length_cons]
    omega

/-! ## Statements and their offsets -/

/-- The statements are the parts that are not blank. -/
theorem texts_segmentsFrom (start : Nat) (parts : List (List Char)) :
    (segmentsFrom start parts).map Prod.snd = parts.filter fun part => !part.all isBlank := by
  induction parts generalizing start with
  | nil => rfl
  | cons part rest ih =>
    rw [segmentsFrom]
    by_cases h : part.all isBlank <;> simp [h, ih]

theorem start_le_of_mem_segmentsFrom {start : Nat} {parts : List (List Char)}
    {x : Nat × List Char} (h : x ∈ segmentsFrom start parts) : start ≤ x.1 := by
  induction parts generalizing start with
  | nil => simp [segmentsFrom] at h
  | cons part rest ih =>
    rw [segmentsFrom] at h
    split_ifs at h
    · have := ih h
      omega
    · rcases List.mem_cons.1 h with rfl | h
      · exact le_refl _
      · have := ih h
        omega

/-- Statements come in order and apart: each ends before the separator in front of the next. -/
theorem segmentsFrom_pairwise (start : Nat) (parts : List (List Char)) :
    (segmentsFrom start parts).Pairwise fun a b => a.1 + byteLength a.2 < b.1 := by
  induction parts generalizing start with
  | nil => exact List.Pairwise.nil
  | cons part rest ih =>
    rw [segmentsFrom]
    split_ifs
    · exact ih _
    · refine List.pairwise_cons.2 ⟨fun b hb => ?_, ih _⟩
      -- every later statement starts past this part and its separator
      have := start_le_of_mem_segmentsFrom hb
      show start + byteLength part < b.1
      omega

/-- The parts of a text that start after `pre`, of `start` bytes, are found where they are: each
statement is the piece of the text after as many bytes as its offset. -/
theorem segmentsFrom_located {sql pre : List Char} {start : Nat} {parts : List (List Char)}
    (hsql : sql = pre ++ [';'].intercalate parts) (hpre : byteLength pre = start) :
    ∀ x ∈ segmentsFrom start parts, ∃ a b, sql = a ++ x.2 ++ b ∧ byteLength a = x.1 := by
  induction parts generalizing pre start with
  | nil => simp [segmentsFrom]
  | cons part rest ih =>
    -- after the first part come nothing, or a separator and the other parts
    obtain ⟨b, hb, hrest⟩ : ∃ b, sql = pre ++ part ++ b ∧
        ∀ y ∈ segmentsFrom (start + byteLength part + 1) rest,
          ∃ a b, sql = a ++ y.2 ++ b ∧ byteLength a = y.1 := by
      cases rest with
      | nil => exact ⟨[], by simpa using hsql, by simp [segmentsFrom]⟩
      | cons part' rest' =>
        have hnext : sql = (pre ++ part ++ [';']) ++ [';'].intercalate (part' :: rest') := by
          rw [hsql, List.intercalate_cons_cons]
          simp
        have hlen : byteLength (pre ++ part ++ [';']) = start + byteLength part + 1 := by
          rw [byteLength_append, byteLength_append, hpre]
          rfl
        refine ⟨';' :: [';'].intercalate (part' :: rest'), by rw [hnext]; simp, ih hnext hlen⟩
    intro x hx
    rw [segmentsFrom] at hx
    split_ifs at hx
    · exact hrest x hx
    · rcases List.mem_cons.1 hx with rfl | hx
      · exact ⟨pre, b, hb, hpre⟩
      · exact hrest x hx

/-- The statements of a text are its pieces between separators that are not blank. -/
theorem statement_texts {sql : String} {pieces : List String}
    (hjoin : ";".intercalate pieces = sql) (hsep : ∀ p ∈ pieces, ';' ∉ p.toList) :
    (statements sql).map (fun x => String.ofList x.2) =
      pieces.filter fun p => Text.trim p ≠ "" := by
  by_cases hnil : pieces = []
  · subst hnil hjoin
    rfl
  · have hsplit : sql.toList.splitOn ';' = pieces.map String.toList := by
      rw [← hjoin, String.toList_intercalate]
      exact List.splitOn_intercalate ';' (by simpa using hsep) (by simpa using hnil)
    have hpred : ∀ p : String, (!p.toList.all isBlank) = decide (Text.trim p ≠ "") := by
      intro p
      cases hb : p.toList.all isBlank
      · have htrim : Text.trim p ≠ "" := by
          rw [ne_eq, Text.trim_eq_empty_iff, ← List.all_eq_true, hb]
          exact Bool.false_ne_true
        simp [htrim]
      · have htrim : Text.trim p = "" := by
          rw [Text.trim_eq_empty_iff, ← List.all_eq_true, hb]
        simp [htrim]
    have htexts := congrArg (List.map String.ofList)
      (texts_segmentsFrom 0 (pieces.map String.toList))
    rw [List.map_map, List.filter_map, List.map_map] at htexts
    rw [statements, hsplit]
    refine htexts.trans ?_
    simp only [Function.comp_def, String.ofList_toList, List.map_id', hpred]

/-- Each statement is cut back out of the text at its offset and length. -/
theorem recordText_statement {sql : String} {x : Nat × List Char} (hx : x ∈ statements sql) :
    (⟨x.1, byteLength x.2⟩ : StatementSpan).recordText sql = .ok (String.ofList x.2) := by
  have hsql : sql.toList = [] ++ [';'].intercalate (sql.toList.splitOn ';') := by
    rw [List.nil_append, List.intercalate_splitOn]
  obtain ⟨a, b, hab, ha⟩ := segmentsFrom_located hsql rfl x hx
  refine (StatementSpan.recordText_eq_ok_iff _ _ _).2
    ⟨String.ofList a, String.ofList b, ?_, ?_, ?_⟩
  · rw [← String.ofList_toList (s := sql), hab, String.ofList_append, String.ofList_append]
  · rw [← byteLength_eq_utf8ByteSize, ha]
  · exact (byteLength_eq_utf8ByteSize _).symm

/-- Every statement ends within the text. -/
theorem statement_end_le {sql : String} {x : Nat × List Char} (hx : x ∈ statements sql) :
    x.1 + byteLength x.2 ≤ sql.utf8ByteSize :=
  ((StatementSpan.recordText_isOk_iff _ _).1 ⟨_, recordText_statement hx⟩).1

/-- In a text shorter than `2 ^ 31` bytes, each statement's span is sliced back to it. -/
theorem slice_statement {sql : String} (hlen : sql.utf8ByteSize < 2 ^ 31) {x : Nat × List Char}
    (hx : x ∈ statements sql) :
    (⟨x.1, byteLength x.2⟩ : StatementSpan).slice sql = .ok (.ok (String.ofList x.2)) := by
  have hend := statement_end_le hx
  refine (StatementSpan.slice_eq_ok_iff _ _ _).2 ⟨?_, recordText_statement hx⟩
  unfold usizeMax
  dsimp only
  omega

/-! ## What the default engine answers -/

theorem locates_statement {sql : String} (hlen : sql.utf8ByteSize < 2 ^ 31)
    {x : Nat × List Char} (hx : x ∈ statements sql) :
    Parser.Locates (some (Int32.ofNat x.1, Int32.ofNat (byteLength x.2)))
      ⟨x.1, byteLength x.2⟩ := by
  have hend := statement_end_le hx
  exact ⟨(Int32.toInt_ofNat_of_lt (n := x.1) (by omega)).symm,
    (Int32.toInt_ofNat_of_lt (n := byteLength x.2) (by omega)).symm⟩

/-- Without a syntax error to report, the default engine answers a record per statement and no
error, and the layer reads back each statement's offset and length. -/
theorem splitReply_reads_statements {sql : String} (hlen : sql.utf8ByteSize < 2 ^ 31)
    (s : State) :
    ∃ r t, splitReply {} sql false s = .ok r t ∧ r.error = none ∧
      Parser.spansOf r = .ok ((statements sql).map fun x => ⟨x.1, byteLength x.2⟩) := by
  have hcount : (statements sql).length < 2 ^ 31 := by
    have := Utf8.length_le_length_encode sql
    rw [Utf8.length_encode] at this
    have := length_statements_le sql
    omega
  have hspans : splitSpans {} sql = (statements sql).map fun x => (x.1, byteLength x.2) := rfl
  have hloc : ∀ x ∈ statements sql,
      Parser.Locates (some (Int32.ofNat x.1, Int32.ofNat (byteLength x.2)))
        ⟨x.1, byteLength x.2⟩ := fun x hx => locates_statement hlen hx
  simp only [splitReply, Bool.false_eq_true, if_false, bind, EStateM.bind, pure, EStateM.pure,
    mapM_allocStatement_run, hspans, List.map_map]
  generalize statements sql = l at hcount hloc ⊢
  cases l with
  | nil => exact ⟨_, _, rfl, rfl, rfl⟩
  | cons x rest =>
    refine ⟨_, _, rfl, rfl, ?_⟩
    have hcount' : (Int32.ofNat (x :: rest).length).toInt = (x :: rest).length :=
      Int32.toInt_ofNat_of_lt hcount
    rw [Parser.spansOf_eq_ok_iff_locates]
    simp only [List.length_map, hcount', SplitReply.entries, Option.getD_some, Int.toNat_natCast]
    refine ⟨by omega, .inr rfl, ?_⟩
    rw [List.take_of_length_le (by simp), List.forall₂_map_left_iff, List.forall₂_map_right_iff,
      List.forall₂_same]
    exact hloc

theorem splitReply_of_syntaxError (f : Flags) {sql : String} {cursor : Nat}
    (h : syntaxErrorCursor sql = some cursor) (s : State) :
    ∃ t, splitReply f sql true s =
      .ok { error := some (scannerError "syntax error at end of input" (Int32.ofNat cursor)) } t := by
  simp only [splitReply, if_true, bind, EStateM.bind, syntaxError_of_some h]
  exact ⟨_, rfl⟩

theorem ofText_of_no_nul {sql : String} (hnul : '\x00' ∉ sql.toList) :
    Buffer.ofText sql = .ok ⟨Utf8.encode sql, false⟩ := by
  simp only [Buffer.ofText, Utf8.idxOf?_encode_of_no_nul hnul]

/-- The default engine splits a text without NUL into the spans of its statements, with the
scanner, or with the parser when there is no syntax error. -/
theorem splitSpans_default {sql : String} (hnul : '\x00' ∉ sql.toList)
    (hlen : sql.utf8ByteSize < 2 ^ 31) (a : SplitAlgorithm)
    (hclean : a = .parser → syntaxErrorCursor sql = none) (s : State) :
    ∃ t, Parser.splitSpans (engine {}) sql a s =
      .ok (.ok ((statements sql).map fun x => ⟨x.1, byteLength x.2⟩)) t := by
  -- both entry points answer the scanner's reply; the parser's own check finds nothing to report
  obtain ⟨r, t, hsplit, hspans⟩ : ∃ r t,
      Parser.splitBuffer (engine {}) ⟨Utf8.encode sql, false⟩ a s = .ok (Parser.spansOf r) t ∧
      Parser.spansOf r = .ok ((statements sql).map fun x => ⟨x.1, byteLength x.2⟩) := by
    cases a with
    | scanner =>
      obtain ⟨r, t, hcall, herr, hspans⟩ : ∃ r t, (engine {}).splitWithScanner (Utf8.encode sql)
          ((engine {}).note (Parser.dispatchRecord .split) s) = .ok r t ∧ r.error = none ∧
          Parser.spansOf r = .ok ((statements sql).map fun x => ⟨x.1, byteLength x.2⟩) := by
        simp only [engine, bind, EStateM.bind, dispatch_run, input_run (Utf8.decode_encode sql)]
        exact splitReply_reads_statements hlen _
      obtain ⟨t', ht'⟩ :=
        Parser.splitBuffer_of_answer (engine {}) .scanner ⟨Utf8.encode sql, false⟩ hcall herr
      exact ⟨r, t', ht', hspans⟩
    | parser =>
      obtain ⟨r, t, hcall, herr, hspans⟩ : ∃ r t, (engine {}).splitWithParser (Utf8.encode sql)
          ((engine {}).note (Parser.dispatchRecord .split) s) = .ok r t ∧ r.error = none ∧
          Parser.spansOf r = .ok ((statements sql).map fun x => ⟨x.1, byteLength x.2⟩) := by
        simp only [engine, bind, EStateM.bind, dispatch_run, input_run (Utf8.decode_encode sql),
          splitReply_checked_of_none {} (hclean rfl)]
        exact splitReply_reads_statements hlen _
      obtain ⟨t', ht'⟩ :=
        Parser.splitBuffer_of_answer (engine {}) .parser ⟨Utf8.encode sql, false⟩ hcall herr
      exact ⟨r, t', ht', hspans⟩
  rw [hspans] at hsplit
  exact ⟨t, by rw [Parser.splitSpans, ofText_of_no_nul hnul]; exact hsplit⟩

/-- The parser's syntax error is answered as the engine's error. -/
theorem splitSpans_of_syntaxError {sql : String} (hnul : '\x00' ∉ sql.toList) {cursor : Nat}
    (hc : syntaxErrorCursor sql = some cursor) (s : State) :
    ∃ t, Parser.splitSpans (engine {}) sql .parser s = .ok (.error (.engine
      (EngineError.ofNative (scannerError "syntax error at end of input" (Int32.ofNat cursor))))) t := by
  obtain ⟨t, hcall⟩ : ∃ t, (engine {}).splitWithParser (Utf8.encode sql)
      ((engine {}).note (Parser.dispatchRecord .split) s) =
      .ok { error := some (scannerError "syntax error at end of input" (Int32.ofNat cursor)) } t := by
    simp only [engine, bind, EStateM.bind, dispatch_run, input_run (Utf8.decode_encode sql)]
    exact splitReply_of_syntaxError {} hc _
  have herr : (fun r : SplitReply => r.error)
      { error := some (scannerError "syntax error at end of input" (Int32.ofNat cursor)) } =
      some (scannerError "syntax error at end of input" (Int32.ofNat cursor)) := rfl
  obtain ⟨t', ht'⟩ := Parser.run_of_error (engine {}) .split Parser.spansOf hcall herr
  exact ⟨t', by rw [Parser.splitSpans, ofText_of_no_nul hnul]; exact ht'⟩

theorem syntaxErrorCursor_eq_none {sql : String}
    (h : ∀ x ∈ statements sql, danglingFrom x.2 = false) : syntaxErrorCursor sql = none := by
  rw [syntaxErrorCursor, Option.map_eq_none_iff, List.find?_eq_none]
  intro x hx
  simp [h x hx]

/-- The syntax error is reported just past the first statement that ends in a dangling `from`. -/
theorem syntaxErrorCursor_of_first {sql : String} {pre post : List (Nat × List Char)}
    {x : Nat × List Char} (h : statements sql = pre ++ x :: post)
    (hpre : ∀ y ∈ pre, danglingFrom y.2 = false) (hx : danglingFrom x.2 = true) :
    syntaxErrorCursor sql = some (x.1 + byteLength x.2 + 1) := by
  have hfind : (statements sql).find? (fun y => danglingFrom y.2) = some x := by
    rw [List.find?_eq_some_iff_append]
    exact ⟨hx, pre, post, h, fun y hy => by simp [hpre y hy]⟩
  rw [syntaxErrorCursor, hfind]
  rfl

/-- A cursor is an `int` on the engine side: one that reaches `2 ^ 31` wraps to a negative value,
which is read back as 0. -/
theorem clampNonNegative_ofNat {n : Nat} (h : n ≤ 2 ^ 31) :
    EngineError.clampNonNegative (Int32.ofNat n) = if n < 2 ^ 31 then n else 0 := by
  split_ifs with hn
  · rw [EngineError.clampNonNegative, Int32.toInt_ofNat_of_lt hn, Int.toNat_natCast]
  · obtain rfl : n = 2 ^ 31 := by omega
    decide

/-! ## Splitting a batch -/

/-- Splitting a batch with the default toy engine. The batch is its pieces joined by `;`, none
holding a `;`. The scanner answers the pieces that are not blank, in order, each cut out of the
text at its span, and the spans come in order with a separator between each two. The parser
answers the same unless one of those statements ends in a dangling `from`; then it answers the
engine's error for the first such statement, with the cursor just past it, read back as 0 where
it would reach `2 ^ 31`. -/
theorem split_answers_nonblank_pieces (sql : String) (hnul : '\x00' ∉ sql.toList)
    (hlen : sql.utf8ByteSize < 2 ^ 31) (pieces : List String)
    (hjoin : ";".intercalate pieces = sql) (hsep : ∀ p ∈ pieces, ';' ∉ p.toList) (s : State) :
    ∃ spans : List StatementSpan,
      (∃ t, Parser.splitSpans (engine {}) sql .scanner s = .ok (.ok spans) t) ∧
      List.Forall₂ (fun span text => span.slice sql = .ok (.ok text)) spans
        (pieces.filter fun p => Text.trim p ≠ "") ∧
      spans.Pairwise (fun a b => a.location + a.length < b.location) ∧
      (∃ t, Parser.split (engine {}) sql .scanner s =
        .ok (.ok (pieces.filter fun p => Text.trim p ≠ "")) t) ∧
      ((∀ text ∈ pieces.filter (fun p => Text.trim p ≠ ""), danglingFrom text.toList = false) →
        ∃ t, Parser.split (engine {}) sql .parser s =
          .ok (.ok (pieces.filter fun p => Text.trim p ≠ "")) t) ∧
      (∀ pre span text post,
        spans.zip (pieces.filter fun p => Text.trim p ≠ "") = pre ++ (span, text) :: post →
        danglingFrom text.toList = true → (∀ y ∈ pre, danglingFrom y.2.toList = false) →
        ∃ t err, Parser.split (engine {}) sql .parser s = .ok (.error (.engine err)) t ∧
          err.cursorPosition = if span.location + span.length + 1 < 2 ^ 31
            then span.location + span.length + 1 else 0) := by
  have htexts := statement_texts hjoin hsep
  generalize pieces.filter (fun p => Text.trim p ≠ "") = texts at htexts ⊢
  subst htexts
  -- each statement is cut back out of the text where it was found
  have hslices : List.Forall₂ (fun (span : StatementSpan) text => span.slice sql = .ok (.ok text))
      ((statements sql).map fun x => (⟨x.1, byteLength x.2⟩ : StatementSpan))
      ((statements sql).map fun x => String.ofList x.2) := by
    rw [List.forall₂_map_left_iff, List.forall₂_map_right_iff, List.forall₂_same]
    exact fun x hx => slice_statement hlen hx
  refine ⟨_, splitSpans_default hnul hlen .scanner (fun h => nomatch h) s, hslices, ?_, ?_, ?_, ?_⟩
  · rw [List.pairwise_map]
    exact segmentsFrom_pairwise 0 _
  · obtain ⟨t, ht⟩ := splitSpans_default hnul hlen .scanner (fun h => nomatch h) s
    exact ⟨t, (Parser.split_eq_ok_iff _ _ _ _ _ _).2 ⟨_, ht, hslices⟩⟩
  · intro hnone
    have hc : syntaxErrorCursor sql = none := syntaxErrorCursor_eq_none fun x hx => by
      simpa using hnone _ (List.mem_map_of_mem hx)
    obtain ⟨t, ht⟩ := splitSpans_default hnul hlen .parser (fun _ => hc) s
    exact ⟨t, (Parser.split_eq_ok_iff _ _ _ _ _ _).2 ⟨_, ht, hslices⟩⟩
  · intro pre span text post hzip hx hpre
    -- the pair found is that of one statement, after the statements of `pre`
    rw [List.zip_map'] at hzip
    obtain ⟨l₁, l₂, hl, rfl, hl₂⟩ := List.map_eq_append_iff.1 hzip
    obtain ⟨x, l₃, rfl, hxeq, -⟩ := List.map_eq_cons_iff.1 hl₂
    obtain ⟨rfl, rfl⟩ := Prod.mk.inj hxeq
    have hcursor := syntaxErrorCursor_of_first hl
      (fun y hy => by simpa using hpre _ (List.mem_map_of_mem hy)) (by simpa using hx)
    have hend := statement_end_le (hl ▸ List.mem_append_right l₁ List.mem_cons_self)
    obtain ⟨t, ht⟩ := splitSpans_of_syntaxError hnul hcursor s
    refine ⟨t, _, (Parser.split_eq_error_iff _ _ _ _ _ _).2 (.inl ht), ?_⟩
    exact clampNonNegative_ofNat (by omega)

theorem split_by_parser_keeps_nonblank_pieces :
    ∃ t, Parser.split (engine {}) "select 1;; select 2 " .parser {} =
      .ok (.ok ["select 1", " select 2 "]) t := by
  obtain ⟨-, -, -, -, -, hparser, -⟩ := split_answers_nonblank_pieces "select 1;; select 2 "
    (by decide +kernel) (by decide +kernel) ["select 1", "", " select 2 "] (by decide +kernel)
    (by decide +kernel) {}
  have hfilter : ["select 1", "", " select 2 "].filter (fun p => Text.trim p ≠ "") =
      ["select 1", " select 2 "] := by decide +kernel
  rw [hfilter] at hparser
  exact hparser (by decide +kernel)

/-- Blanks followed by ` from` are one statement that ends in a dangling `from`. -/
theorem statements_blanks_from (n : Nat) :
    statements (String.ofList (List.replicate n ' ' ++ [' ', 'f', 'r', 'o', 'm'])) =
      [(0, List.replicate n ' ' ++ [' ', 'f', 'r', 'o', 'm'])] := by
  have hsemi : ';' ∉ List.replicate n ' ' ++ [' ', 'f', 'r', 'o', 'm'] := by
    simp [List.mem_replicate]
  have hblank : (List.replicate n ' ' ++ [' ', 'f', 'r', 'o', 'm']).all isBlank = false := by
    simp only [List.all_append, List.all_cons, List.all_nil]
    have hf : isBlank 'f' = false := by decide
    simp [hf]
  rw [statements, String.toList_ofList, List.splitOn_eq_singleton hsemi]
  simp [segmentsFrom, hblank]

theorem danglingFrom_blanks_from (n : Nat) :
    danglingFrom (List.replicate n ' ' ++ [' ', 'f', 'r', 'o', 'm']) = true := by
  have hdrop : dropBlanks (List.replicate n ' ' ++ [' ', 'f', 'r', 'o', 'm']).reverse =
      (List.replicate n ' ' ++ [' ', 'f', 'r', 'o', 'm']).reverse := by
    rw [List.reverse_append, dropBlanks]
    exact List.dropWhile_cons_of_neg (by decide)
  have hlower : (List.replicate n ' ' ++ [' ', 'f', 'r', 'o', 'm']).map Char.toLower =
      List.replicate n ' ' ++ [' ', 'f', 'r', 'o', 'm'] := by
    rw [List.map_append, List.map_replicate]
    rfl
  unfold danglingFrom
  rw [hdrop, List.reverse_reverse, hlower, Bool.or_eq_true]
  exact .inr (List.isSuffixOf_iff_suffix.2 (List.suffix_append _ _))

theorem byteLength_blanks_from (n : Nat) :
    byteLength (List.replicate n ' ' ++ [' ', 'f', 'r', 'o', 'm']) = n + 5 := by
  have hspace : ' '.utf8Size = 1 := rfl
  have hfrom : (List.map Char.utf8Size [' ', 'f', 'r', 'o', 'm']).sum = 5 := rfl
  simp only [byteLength_eq_sum, List.map_append, List.map_replicate, List.sum_append,
    List.sum_replicate_nat, hspace, hfrom, Nat.mul_one]

/-- The parser reports blanks followed by ` from` with the cursor just past the `from`. -/
theorem split_blanks_from (n : Nat) :
    ∃ t err, Parser.split (engine {})
      (String.ofList (List.replicate n ' ' ++ [' ', 'f', 'r', 'o', 'm'])) .parser {} =
        .ok (.error (.engine err)) t ∧
      err.cursorPosition = EngineError.clampNonNegative (Int32.ofNat (n + 6)) := by
  have hnul : '\x00' ∉
      (String.ofList (List.replicate n ' ' ++ [' ', 'f', 'r', 'o', 'm'])).toList := by
    simp [List.mem_replicate]
  have hcursor := syntaxErrorCursor_of_first
    ((statements_blanks_from n).trans (List.nil_append _).symm)
    (fun y hy => nomatch hy) (danglingFrom_blanks_from n)
  obtain ⟨t, ht⟩ := splitSpans_of_syntaxError hnul hcursor {}
  refine ⟨t, _, (Parser.split_eq_error_iff _ _ _ _ _ _).2 (.inl ht), ?_⟩
  change EngineError.clampNonNegative
    (Int32.ofNat (0 + byteLength (List.replicate n ' ' ++ [' ', 'f', 'r', 'o', 'm']) + 1)) = _
  rw [byteLength_blanks_from, Nat.zero_add]

/-- A batch of `2 ^ 31 - 1` bytes, blanks and then ` from`: its one statement ends in a dangling
`from` at the last byte, and the cursor just past it, `2 ^ 31`, is read back as 0. -/
theorem dangling_from_at_int_limit_reports_cursor_zero :
    (String.ofList (List.replicate (2 ^ 31 - 6) ' ' ++ [' ', 'f', 'r', 'o', 'm'])).utf8ByteSize =
      2 ^ 31 - 1 ∧
    ∃ t err, Parser.split (engine {})
      (String.ofList (List.replicate (2 ^ 31 - 6) ' ' ++ [' ', 'f', 'r', 'o', 'm'])) .parser {} =
        .ok (.error (.engine err)) t ∧ err.cursorPosition = 0 := by
  obtain ⟨t, err, hsplit, hcursor⟩ := split_blanks_from (2 ^ 31 - 6)
  refine ⟨by rw [← byteLength_eq_utf8ByteSize, byteLength_blanks_from]; decide, t, err, hsplit, ?_⟩
  rw [hcursor]
  decide
end Toy
end PgBinding
