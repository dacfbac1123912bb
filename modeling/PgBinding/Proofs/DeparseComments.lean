import Mathlib
import PgBinding.Proofs.Splitting

/-!
# Deparsing with comments

Deparse options and comments cross the boundary as C ints and C strings. Every comment text is
checked for NUL first; then every C int field in one fixed order (`DeparseOptions.cIntFields`):
each comment's three numbers in turn, then the indentation and the line length. The checks of
`nativeOptions` fail exactly as a scan of that list does (`nativeOptions_failsAlike`), so the
first field that does not fit names the error.

A record marshals a comment (`DeparseComment.Marshals`) when it carries the comment's numbers and
its text as a C string; `commentRecord` builds exactly that record and `copyComment` reads the
comment back from it, so comments go through the boundary and back unchanged.
-/

namespace PgBinding

/-! ## Failing alike -/

section Alike

variable {ε α β γ δ : Type}

/-- Two fallible computations fail alike: with the same error, or neither of them. -/
def FailsAlike (x : Except ε α) (y : Except ε β) : Prop :=
  ∀ p, x = .error p ↔ y = .error p

namespace FailsAlike

theorem refl (x : Except ε α) : FailsAlike x x := fun _ => .rfl

theorem pure (a : α) (b : β) :
    FailsAlike (Pure.pure a : Except ε α) (Pure.pure b : Except ε β) := by
  intro p
  simp [Pure.pure, Except.pure]

/-- Sequencing fails alike when the first steps do and every pair of continuations does. -/
theorem bind {x : Except ε α} {y : Except ε β} {f : α → Except ε γ} {g : β → Except ε δ}
    (hxy : FailsAlike x y) (hfg : ∀ a b, FailsAlike (f a) (g b)) :
    FailsAlike (x >>= f) (y >>= g) := by
  intro p
  cases hx : x with
  | error q =>
    rw [(hxy q).1 hx]
    simp only [Bind.bind, Except.bind, Except.error.injEq]
  | ok a =>
    cases hy : y with
    | error q => simp [(hxy q).2 hy] at hx
    | ok b => exact hfg a b p

theorem exists_ok {x : Except ε α} {y : Except ε β} (h : FailsAlike x y) {b : β}
    (hy : y = .ok b) : ∃ a, x = .ok a := by
  cases hx : x with
  | ok a => exact ⟨a, rfl⟩
  | error p => simp [(h p).1 hx] at hy

end FailsAlike

theorem mapM_exists_ok {f : α → Except ε β} {xs : List α} (h : ∀ x ∈ xs, ∃ y, f x = .ok y) :
    ∃ ys, xs.mapM f = .ok ys := by
  cases hm : xs.mapM f with
  | ok ys => exact ⟨ys, rfl⟩
  | error e =>
    obtain ⟨pre, x, post, rfl, -, hx⟩ := (mapM_eq_error_iff f xs e).1 hm
    obtain ⟨y, hy⟩ := h x (by simp)
    simp [hy] at hx

end Alike

namespace Parser

open Materialize

/-- The C int fields of a comment, named as they are refused, in the order they are checked. -/
def DeparseComment.cIntFields (c : DeparseComment) : List (String × UInt32) :=
  [("match_location", c.matchLocation), ("newlines_before", c.newlinesBefore),
    ("newlines_after", c.newlinesAfter)]

/-- A native record marshals a comment when it carries the comment's three numbers, as C ints,
and its text as a C string. -/
def DeparseComment.Marshals (c : DeparseComment) (r : CommentRecord) : Prop :=
  r.matchLocation.toInt = c.matchLocation.toNat ∧
    r.newlinesBefore.toInt = c.newlinesBefore.toNat ∧
    r.newlinesAfter.toInt = c.newlinesAfter.toNat ∧ r.text = some (Utf8.encode c.text)

end Parser

/-- Native options carry deparse options and comments: the flags as they are, the two widths as
the C ints equal to them, and the comments as records that marshal them in order, with a null
array exactly when there are none. -/
structure NativeDeparseOptions.Carries (native : NativeDeparseOptions) (o : DeparseOptions)
    (cs : List Parser.DeparseComment) : Prop where
  prettyPrint : native.prettyPrint = o.prettyPrint
  trailingNewline : native.trailingNewline = o.trailingNewline
  commasStartOfLine : native.commasStartOfLine = o.commasStartOfLine
  indentSize : native.indentSize.toInt = o.indentSize.toNat
  maxLineLength : native.maxLineLength.toInt = o.maxLineLength.toNat
  comments_eq_none : native.comments = none ↔ cs = []
  marshals : List.Forall₂ Parser.DeparseComment.Marshals cs (native.comments.getD [])

/-- Every C int field of a deparse with comments, in the order they are checked: each comment's
three numbers in turn, then the indentation and the line length. -/
def DeparseOptions.cIntFields (o : DeparseOptions) (cs : List Parser.DeparseComment) :
    List (String × UInt32) :=
  cs.flatMap Parser.DeparseComment.cIntFields ++
    [("indent_size", o.indentSize), ("max_line_length", o.maxLineLength)]

/-- The records of a comments result that are not null, among its first `count`. -/
def CommentsReply.records (r : CommentsReply) : List CommentRecord :=
  ((r.comments.getD []).take r.count).filterMap id

theorem Payload.ofBytes_data_eq_none_iff (bs : Bytes) :
    (Payload.ofBytes bs).data = none ↔ bs = [] := by
  cases bs <;> simp [Payload.ofBytes]

theorem Payload.ofBytes_data_getD (bs : Bytes) : (Payload.ofBytes bs).data.getD [] = bs := by
  cases bs <;> rfl

namespace Parser

open Materialize

variable {σ : Type}

/-! ## C ints and C strings -/

/-- A value is taken as the C int equal to it, or refused when no C int is. -/
theorem cIntField_eq_ok_iff (field : String) (v : UInt32) (i : Int32) :
    cIntField field v = .ok i ↔ i.toInt = v.toNat := by
  unfold cIntField
  have hi := i.toInt_lt
  split_ifs with h
  · simp only [false_iff]
    unfold cIntMax at h
    omega
  · have hv : v.toNat < 2 ^ 31 := by unfold cIntMax at h; omega
    rw [Except.ok.injEq, ← Int32.toInt_inj, Int32.toInt_ofNat_of_lt hv]
    exact eq_comm

theorem cIntField_eq_error_iff (field : String) (v : UInt32) (p : PreconditionError) :
    cIntField field v = .error p ↔ cIntMax < v.toNat ∧ p = .valueTooLarge field v.toNat := by
  unfold cIntField
  split_ifs with h
  · simp only [Except.error.injEq, h, true_and]
    exact eq_comm
  · simp only [false_iff, not_and]
    omega

theorem cIntField_exists_ok (field : String) {v : UInt32} (h : v.toNat ≤ cIntMax) :
    ∃ i, cIntField field v = .ok i := by
  unfold cIntField
  rw [if_neg (by omega)]
  exact ⟨_, rfl⟩

theorem commentText_of_no_nul {c : DeparseComment} (h : '\x00' ∉ c.text.toList) :
    commentText c = .ok (Utf8.encode c.text) := by
  simp only [commentText, Utf8.idxOf?_encode_of_no_nul h]

/-- A comment text is refused at the offset of its first NUL. -/
theorem commentText_of_nul {c : DeparseComment} {pre post : List Char}
    (hs : c.text.toList = pre ++ '\x00' :: post) (hpre : '\x00' ∉ pre) :
    commentText c = .error (.interiorNul (String.ofList pre).utf8ByteSize) := by
  simp only [commentText, Utf8.idxOf?_encode_of_nul hs hpre, Utf8.length_encode]

theorem mapM_commentText_of_no_nul {cs : List DeparseComment}
    (h : ∀ c ∈ cs, '\x00' ∉ c.text.toList) :
    cs.mapM commentText = pure (cs.map fun c => Utf8.encode c.text) := by
  induction cs with
  | nil => rfl
  | cons c cs ih =>
    simp only [List.mem_cons, forall_eq_or_imp] at h
    simp only [List.mapM_cons, commentText_of_no_nul h.1, ih h.2, List.map_cons]
    rfl

theorem utf8String_some_eq_ok_iff (what : String) (bs : Bytes) (s : String) :
    utf8String what (some bs) = .ok s ↔ bs = Utf8.encode s := by
  rw [← Utf8.decode_eq_ok_iff]
  simp only [utf8String]
  cases Utf8.decode bs <;> simp

/-! ## Records -/

/-- The record built for a comment with its own text is exactly a record that marshals it. -/
theorem commentRecord_eq_ok_iff (c : DeparseComment) (r : CommentRecord) :
    commentRecord c (Utf8.encode c.text) = .ok r ↔ c.Marshals r := by
  simp only [commentRecord, bind_eq_ok_iff, cIntField_eq_ok_iff, pure, Except.pure,
    Except.ok.injEq, DeparseComment.Marshals]
  constructor
  · rintro ⟨loc, hloc, before, hbefore, after, hafter, rfl⟩
    exact ⟨hloc, hbefore, hafter, rfl⟩
  · rintro ⟨hloc, hbefore, hafter, htext⟩
    exact ⟨_, hloc, _, hbefore, _, hafter, by rw [← htext]⟩

/-- A record with a text is copied out exactly as the comment it marshals. -/
theorem copyComment_eq_ok_iff (r : CommentRecord) (c : DeparseComment) (htext : r.text.isSome) :
    copyComment r = .ok c ↔ c.Marshals r := by
  obtain ⟨bs, hbs⟩ := Option.isSome_iff_exists.1 htext
  have hl := r.matchLocation.toInt_lt
  have hb := r.newlinesBefore.toInt_lt
  have ha := r.newlinesAfter.toInt_lt
  simp only [copyComment, bind_eq_ok_iff, nonNegative_eq_ok_iff, hbs, utf8String_some_eq_ok_iff,
    pure, Except.pure, Except.ok.injEq, DeparseComment.Marshals, Option.some.injEq]
  constructor
  · rintro ⟨loc, hloc, before, hbefore, after, hafter, text, rfl, rfl⟩
    refine ⟨?_, ?_, ?_, rfl⟩ <;> simp <;> omega
  · rintro ⟨hloc, hbefore, hafter, htext⟩
    refine ⟨_, hloc.symm, _, hbefore.symm, _, hafter.symm, _, htext, ?_⟩
    simp

theorem DeparseComment.Marshals.unique {c : DeparseComment} {r r' : CommentRecord}
    (h : c.Marshals r) (h' : c.Marshals r') : r = r' := by
  obtain ⟨hl, hb, ha, ht⟩ := h
  obtain ⟨hl', hb', ha', ht'⟩ := h'
  cases r
  cases r'
  simp only at hl hb ha ht hl' hb' ha' ht'
  rw [← Int32.toInt_inj.1 (hl.trans hl'.symm), ← Int32.toInt_inj.1 (hb.trans hb'.symm),
    ← Int32.toInt_inj.1 (ha.trans ha'.symm), ht, ht']

theorem DeparseComment.Marshals.fits {c : DeparseComment} {r : CommentRecord} (h : c.Marshals r) :
    ∀ f ∈ c.cIntFields, f.2.toNat ≤ cIntMax := by
  obtain ⟨hl, hb, ha, -⟩ := h
  have := r.matchLocation.toInt_lt
  have := r.newlinesBefore.toInt_lt
  have := r.newlinesAfter.toInt_lt
  simp only [DeparseComment.cIntFields, List.mem_cons, List.not_mem_nil, or_false,
    forall_eq_or_imp, forall_eq, cIntMax]
  omega

theorem mapM_zip_map (cs : List DeparseComment) (g : DeparseComment → Bytes) :
    (cs.zip (cs.map g)).mapM (fun (c, t) => commentRecord c t) =
      cs.mapM fun c => commentRecord c (g c) := by
  induction cs with
  | nil => rfl
  | cons c cs ih => simp only [List.map_cons, List.zip_cons_cons, List.mapM_cons, ih]

/-! ## The order of the checks -/

/-- A comment's record fails exactly as the checks of its three numbers in order. -/
theorem commentRecord_failsAlike (c : DeparseComment) (text : Bytes) :
    FailsAlike (commentRecord c text) (c.cIntFields.mapM fun f => cIntField f.1 f.2) := by
  simp only [commentRecord, DeparseComment.cIntFields, List.mapM_cons, List.mapM_nil, bind_assoc,
    pure_bind]
  exact .bind (.refl _) fun _ _ => .bind (.refl _) fun _ _ => .bind (.refl _) fun _ _ => .pure _ _

theorem mapM_commentRecord_failsAlike (cs : List DeparseComment) (g : DeparseComment → Bytes) :
    FailsAlike (cs.mapM fun c => commentRecord c (g c))
      ((cs.flatMap DeparseComment.cIntFields).mapM fun f => cIntField f.1 f.2) := by
  induction cs with
  | nil => exact .pure _ _
  | cons c cs ih =>
    rw [List.mapM_cons, List.flatMap_cons, List.mapM_append]
    exact .bind (commentRecord_failsAlike c (g c)) fun _ _ => .bind ih fun _ _ => .pure _ _

/-- With texts free of NUL, the options fail exactly as the checks of their C int fields in
order. -/
theorem nativeOptions_failsAlike (o : DeparseOptions) {cs : List DeparseComment}
    (h : ∀ c ∈ cs, '\x00' ∉ c.text.toList) :
    FailsAlike (nativeOptions o cs) ((o.cIntFields cs).mapM fun f => cIntField f.1 f.2) := by
  simp only [nativeOptions, mapM_commentText_of_no_nul h, mapM_zip_map,
    DeparseOptions.cIntFields, List.mapM_append, List.mapM_cons, List.mapM_nil, bind_assoc,
    pure_bind]
  exact .bind (mapM_commentRecord_failsAlike cs _) fun _ _ =>
    .bind (.refl _) fun _ _ => .bind (.refl _) fun _ _ => .pure _ _

/-! ## The options as they cross -/

/-- The first comment with a NUL in its text refuses the options, at the offset of that NUL. -/
theorem nativeOptions_of_nul (o : DeparseOptions) {cs pre post : List DeparseComment}
    {c : DeparseComment} {a b : List Char} (hcs : cs = pre ++ c :: post)
    (hpre : ∀ d ∈ pre, '\x00' ∉ d.text.toList) (hc : c.text.toList = a ++ '\x00' :: b)
    (ha : '\x00' ∉ a) :
    nativeOptions o cs = .error (.interiorNul (String.ofList a).utf8ByteSize) := by
  have htexts : cs.mapM commentText = .error (.interiorNul (String.ofList a).utf8ByteSize) :=
    (mapM_eq_error_iff _ _ _).2
      ⟨pre, c, post, hcs, fun d hd => ⟨_, commentText_of_no_nul (hpre d hd)⟩,
        commentText_of_nul hc ha⟩
  simp only [nativeOptions, htexts]
  rfl

/-- With texts free of NUL, the first C int field that does not fit refuses the options, named
with its value. -/
theorem nativeOptions_of_tooLarge (o : DeparseOptions) {cs : List DeparseComment}
    (h : ∀ c ∈ cs, '\x00' ∉ c.text.toList) {pre post : List (String × UInt32)} {field : String}
    {v : UInt32} (hfields : o.cIntFields cs = pre ++ (field, v) :: post)
    (hpre : ∀ f ∈ pre, f.2.toNat ≤ cIntMax) (hv : cIntMax < v.toNat) :
    nativeOptions o cs = .error (.valueTooLarge field v.toNat) := by
  apply (nativeOptions_failsAlike o h _).2
  rw [hfields, mapM_eq_error_iff]
  exact ⟨pre, _, post, rfl, fun f hf => cIntField_exists_ok f.1 (hpre f hf),
    (cIntField_eq_error_iff _ _ _).2 ⟨hv, rfl⟩⟩

/-- With texts free of NUL and every C int field fitting, the options are built, and they carry
the options and the comments. -/
theorem nativeOptions_of_fits (o : DeparseOptions) {cs : List DeparseComment}
    (h : ∀ c ∈ cs, '\x00' ∉ c.text.toList) (hfit : ∀ f ∈ o.cIntFields cs, f.2.toNat ≤ cIntMax) :
    ∃ native, nativeOptions o cs = .ok native ∧ native.Carries o cs := by
  obtain ⟨vs, hvs⟩ := mapM_exists_ok fun f hf => cIntField_exists_ok f.1 (hfit f hf)
  obtain ⟨native, hnative⟩ := (nativeOptions_failsAlike o h).exists_ok hvs
  refine ⟨native, hnative, ?_⟩
  simp only [nativeOptions, mapM_commentText_of_no_nul h, pure_bind, mapM_zip_map] at hnative
  simp only [bind_eq_ok_iff, pure, Except.pure, Except.ok.injEq] at hnative
  obtain ⟨records, hrecords, indent, hindent, width, hwidth, rfl⟩ := hnative
  rw [cIntField_eq_ok_iff] at hindent hwidth
  have hm : List.Forall₂ DeparseComment.Marshals cs records :=
    ((mapM_eq_ok_iff _ _ _).1 hrecords).imp fun c r => (commentRecord_eq_ok_iff c r).1
  -- the array is null exactly when no record was built, that is when there are no comments
  have hnil : records = [] ↔ cs = [] :=
    ⟨fun hr => List.forall₂_nil_right_iff.1 (hr ▸ hm),
      fun hc => List.forall₂_nil_left_iff.1 (hc ▸ hm)⟩
  refine ⟨rfl, rfl, rfl, hindent, hwidth, ?_, ?_⟩
  · by_cases hr : records = [] <;> simp [hr, ← hnil]
  · by_cases hr : records = []
    · simpa [hr] using hm
    · simpa [List.isEmpty_iff, hr] using hm

/-! ## Deparsing -/

/-- Options that are refused are answered as a precondition, and nothing is dispatched. -/
theorem deparseWithComments_of_refused (e : Engine σ) (t : Tree.ParseTree) (o : DeparseOptions)
    {cs : List DeparseComment} {p : PreconditionError} (h : nativeOptions o cs = .error p)
    (s : σ) : deparseWithComments e t o cs s = .ok (.error (.precondition p)) s := by
  rw [Operation.deparseWithComments_eq_checked, h]
  rfl

theorem deparseWithComments_eq_run (e : Engine σ) (t : Tree.ParseTree) (o : DeparseOptions)
    {cs : List DeparseComment} {native : NativeDeparseOptions}
    (h : nativeOptions o cs = .ok native) :
    deparseWithComments e t o cs =
      run e .deparse (e.deparseWithOptions (Payload.ofBytes t.encode) native) (·.error)
        fun r => utf8String "deparsed query" r.text := by
  rw [Operation.deparseWithComments_eq_checked, h]
  rfl

/-- Deparsing with options and comments: the first comment text with a NUL is refused at that
NUL, before any number is looked at; then the first C int field that does not fit, each
comment's three numbers in turn and then the indentation and the line length, is refused with its
name and value; neither dispatches anything. Otherwise the deparse entry point is called once,
with the encoded tree (null data exactly when the encoding is empty) and with native options that
carry the options and the comments. -/
theorem deparse_checks_then_dispatches (e : Engine σ) (t : Tree.ParseTree) (o : DeparseOptions)
    (cs : List DeparseComment) :
    (∀ pre c post a b, cs = pre ++ c :: post → (∀ d ∈ pre, '\x00' ∉ d.text.toList) →
      c.text.toList = a ++ '\x00' :: b → '\x00' ∉ a → ∀ s : σ,
        deparseWithComments e t o cs s =
          .ok (.error (.precondition (.interiorNul (String.ofList a).utf8ByteSize))) s) ∧
    ((∀ c ∈ cs, '\x00' ∉ c.text.toList) → ∀ pre field v post,
      o.cIntFields cs = pre ++ (field, v) :: post → (∀ f ∈ pre, f.2.toNat ≤ cIntMax) →
      cIntMax < v.toNat → ∀ s : σ,
        deparseWithComments e t o cs s =
          .ok (.error (.precondition (.valueTooLarge field v.toNat))) s) ∧
    ((∀ c ∈ cs, '\x00' ∉ c.text.toList) → (∀ f ∈ o.cIntFields cs, f.2.toNat ≤ cIntMax) →
      ∃ native, nativeOptions o cs = .ok native ∧ native.Carries o cs ∧
        ∀ s : σ, deparseWithComments e t o cs s =
          match e.deparseWithOptions (Payload.ofBytes t.encode) native
              (e.note (dispatchRecord .deparse) s) with
          | .ok raw s' => extract e .deparse (·.error) (fun r => utf8String "deparsed query" r.text)
              raw s'
          | .error p s' => .error p s') ∧
    ((Payload.ofBytes t.encode).data = none ↔ t.encode = []) ∧
    (Payload.ofBytes t.encode).data.getD [] = t.encode ∧
    (Payload.ofBytes t.encode).len = t.encode.length := by
  refine ⟨fun pre c post a b hcs hpre hc ha s => deparseWithComments_of_refused e t o
      (nativeOptions_of_nul o hcs hpre hc ha) s,
    fun h pre field v post hfields hpre hv s => deparseWithComments_of_refused e t o
      (nativeOptions_of_tooLarge o h hfields hpre hv) s,
    fun h hfit => ?_, Payload.ofBytes_data_eq_none_iff _, Payload.ofBytes_data_getD _, rfl⟩
  obtain ⟨native, hnative, hcarries⟩ := nativeOptions_of_fits o h hfit
  refine ⟨native, hnative, hcarries, fun s => ?_⟩
  rw [deparseWithComments_eq_run e t o hnative, run_apply]
  rcases e.deparseWithOptions (Payload.ofBytes t.encode) native (e.note (dispatchRecord .deparse) s)
    with ⟨raw, s'⟩ | ⟨p, s'⟩ <;> rfl

/-- An indentation past the largest C int is refused by name before anything is dispatched. -/
theorem deparse_refuses_wide_indent :
    deparseWithComments Scripted.direct {} { indentSize := 4294967295 } []
        (Scripted.State.ofScript []) =
      .ok (.error (.precondition (.valueTooLarge "indent_size" 4294967295)))
        (Scripted.State.ofScript []) :=
  (deparse_checks_then_dispatches Scripted.direct {} { indentSize := 4294967295 } []).2.1
    (by simp) [] "indent_size" 4294967295 [("max_line_length", 0)] rfl (by simp) (by decide) _

/-! ## Comments found and put back -/

theorem toNat_toUInt32_of_nonneg (i : Int32) (h : 0 ≤ i.toInt) :
    (i.toInt.toNat.toUInt32.toNat : Int) = i.toInt := by
  have hlt := i.toInt_lt
  rw [Nat.toUInt32_eq, UInt32.toNat_ofNat_of_lt' (by unfold UInt32.size; omega)]
  omega

theorem copyComment_exists_ok {x : CommentRecord} (hl : 0 ≤ x.matchLocation.toInt)
    (hb : 0 ≤ x.newlinesBefore.toInt) (ha : 0 ≤ x.newlinesAfter.toInt) {bs : Bytes} {str : String}
    (htext : x.text = some bs) (hdec : Utf8.decode bs = .ok str) :
    ∃ c, copyComment x = .ok c := by
  refine ⟨⟨x.matchLocation.toInt.toNat.toUInt32, x.newlinesBefore.toInt.toNat.toUInt32,
    x.newlinesAfter.toInt.toNat.toUInt32, str⟩, (copyComment_eq_ok_iff x _ (by simp [htext])).2
      ⟨(toNat_toUInt32_of_nonneg _ hl).symm, (toNat_toUInt32_of_nonneg _ hb).symm,
        (toNat_toUInt32_of_nonneg _ ha).symm, ?_⟩⟩
  rw [htext, (Utf8.decode_eq_ok_iff bs str).1 hdec]

/-- A copied record with a NUL-free C string gives a comment free of NUL whose numbers fit C
ints, and the record marshals it. -/
theorem copyComment_marshals {x : CommentRecord} {c : DeparseComment} {bs : Bytes}
    (htext : x.text = some bs) (hnul : (0 : UInt8) ∉ bs) (h : copyComment x = .ok c) :
    ('\x00' ∉ c.text.toList ∧ ∀ f ∈ c.cIntFields, f.2.toNat ≤ cIntMax) ∧ c.Marshals x := by
  have hm := (copyComment_eq_ok_iff x c (by simp [htext])).1 h
  have hbs : bs = Utf8.encode c.text := Option.some.inj (htext.symm.trans hm.2.2.2)
  have hzero := Utf8.zero_mem_encode_iff c.text.toList
  rw [String.ofList_toList, ← hbs] at hzero
  exact ⟨⟨hzero.not.1 hnul, hm.fits⟩, hm⟩

/-- The comments of a result whose present records have numbers that are not negative and
NUL-free UTF-8 C strings are answered; they are free of NUL, their numbers fit C ints, and the
present records marshal them in order. -/
theorem commentsOf_marshalled (r : CommentsReply) (hcount : r.count ≤ Error.int64Max)
    (harray : r.count = 0 ∨ r.comments.isSome)
    (hrecords : ∀ x ∈ r.records, 0 ≤ x.matchLocation.toInt ∧ 0 ≤ x.newlinesBefore.toInt ∧
      0 ≤ x.newlinesAfter.toInt ∧
      ∃ bs str, x.text = some bs ∧ (0 : UInt8) ∉ bs ∧ Utf8.decode bs = .ok str) :
    ∃ cs, commentsOf r = .ok cs ∧
      (∀ c ∈ cs, '\x00' ∉ c.text.toList ∧ ∀ f ∈ c.cIntFields, f.2.toNat ≤ cIntMax) ∧
      List.Forall₂ DeparseComment.Marshals cs r.records := by
  have harr : commentsOf r = r.records.mapM copyComment := by
    unfold commentsOf CommentsReply.records
    rw [pointerArray_eq_ok _ _ hcount harray]
    rfl
  obtain ⟨cs, hcs⟩ := mapM_exists_ok fun x hx => by
    obtain ⟨hl, hb, ha, bs, str, htext, -, hdec⟩ := hrecords x hx
    exact copyComment_exists_ok hl hb ha htext hdec
  -- pair each record's own facts with its copy, then read the pairs from the comments' side
  have hpairs := (List.forall₂_and_left _ _).2 ⟨hrecords, (mapM_eq_ok_iff _ _ _).1 hcs⟩
  have hback : List.Forall₂ (fun c x => ('\x00' ∉ c.text.toList ∧
      ∀ f ∈ c.cIntFields, f.2.toNat ≤ cIntMax) ∧ c.Marshals x) cs r.records :=
    List.Forall₂.flip (hpairs.imp fun x c ⟨⟨_, _, _, bs, _, htext, hnul, _⟩, h⟩ =>
      copyComment_marshals htext hnul h)
  obtain ⟨hclean, hm⟩ := (List.forall₂_and_left _ _).1 hback
  exact ⟨cs, by rw [harr, hcs], hclean, hm⟩

theorem cIntFields_fit (o : DeparseOptions) {cs : List DeparseComment}
    (hcs : ∀ c ∈ cs, ∀ f ∈ c.cIntFields, f.2.toNat ≤ cIntMax)
    (hindent : o.indentSize.toNat ≤ cIntMax) (hwidth : o.maxLineLength.toNat ≤ cIntMax) :
    ∀ f ∈ o.cIntFields cs, f.2.toNat ≤ cIntMax := by
  simp only [DeparseOptions.cIntFields, List.mem_append, List.mem_flatMap, List.mem_cons,
    List.not_mem_nil, or_false]
  rintro f (⟨c, hc, hf⟩ | rfl | rfl)
  · exact hcs c hc f hf
  · exact hindent
  · exact hwidth

/-- Options that carry comments hold exactly the records that marshal them, and a null array
when there are none. -/
theorem comments_eq_of_carries {native : NativeDeparseOptions}
    {o : DeparseOptions} {cs : List DeparseComment} {records : List CommentRecord}
    (hcarries : native.Carries o cs) (hm : List.Forall₂ DeparseComment.Marshals cs records) :
    native.comments = if records = [] then none else some records := by
  -- a comment is marshalled by one record only
  have hsame : native.comments.getD [] = records :=
    List.right_unique_forall₂' (fun _ _ _ h h' => h.unique h') hcarries.marshals hm
  cases hc : native.comments with
  | none =>
    have hcs : cs = [] := hcarries.comments_eq_none.1 hc
    subst hcs
    simp [List.forall₂_nil_left_iff.1 hm]
  | some l =>
    rw [hc, Option.getD_some] at hsame
    subst hsame
    have hcs : cs ≠ [] := fun h => by simp [hcarries.comments_eq_none.2 h] at hc
    have hne : l ≠ [] := fun h => hcs (List.forall₂_nil_right_iff.1 (h ▸ hm))
    simp [hne]

theorem mapM_copyComment_of_marshals {cs : List DeparseComment} {records : List CommentRecord}
    (hm : List.Forall₂ DeparseComment.Marshals cs records) : records.mapM copyComment = .ok cs :=
  (mapM_eq_ok_iff _ _ _).2 <| List.Forall₂.flip <|
    hm.imp fun c x h => (copyComment_eq_ok_iff x c (by simp [h.2.2.2])).2 h

/-- Comments survive the round trip through the engine. Comments read from an engine result with
no error, an addressable count, an array whenever the count is positive, and present records with
numbers that are not negative and a UTF-8 C string, are answered; passed back to a deparse with
options that fit, they are handed to the engine as exactly the present records, in order, with a
null array when there are none. Conversely, comments free of NUL whose numbers fit C ints are
read back unchanged from the records the deparse builds for them. -/
theorem extracted_comments_round_trip (e : Engine σ) (sql : String) (buf : Buffer) (s s' : σ)
    (r : CommentsReply) (hbuf : Buffer.ofText sql = .ok buf)
    (hcall : e.deparseComments buf.content (e.note (dispatchRecord .deparseComments) s) =
      .ok (some r) s')
    (herr : r.error = none) (hcount : r.count ≤ Error.int64Max)
    (harray : r.count = 0 ∨ r.comments.isSome)
    (hrecords : ∀ x ∈ r.records, 0 ≤ x.matchLocation.toInt ∧ 0 ≤ x.newlinesBefore.toInt ∧
      0 ≤ x.newlinesAfter.toInt ∧
      ∃ bs str, x.text = some bs ∧ (0 : UInt8) ∉ bs ∧ Utf8.decode bs = .ok str) :
    (∃ cs t, extractComments e sql s = .ok (.ok cs) t ∧
      ∀ o : DeparseOptions, o.indentSize.toNat ≤ cIntMax → o.maxLineLength.toNat ≤ cIntMax →
        ∃ native, nativeOptions o cs = .ok native ∧
          native.comments = (if r.records = [] then none else some r.records) ∧
          ∀ tree : Tree.ParseTree, deparseWithComments e tree o cs =
            run e .deparse (e.deparseWithOptions (Payload.ofBytes tree.encode) native) (·.error)
              fun r => utf8String "deparsed query" r.text) ∧
    (∀ (cs : List DeparseComment) (o : DeparseOptions), (∀ c ∈ cs, '\x00' ∉ c.text.toList) →
      (∀ f ∈ o.cIntFields cs, f.2.toNat ≤ cIntMax) →
      ∃ native, nativeOptions o cs = .ok native ∧
        (native.comments.getD []).mapM copyComment = .ok cs) := by
  refine ⟨?_, fun cs o hnul hfit => ?_⟩
  · obtain ⟨t, ht⟩ : ∃ t, extractComments e sql s = .ok (commentsOf r) t := by
      rw [extractComments, hbuf]
      exact runOptional_of_answer e .deparseComments _ commentsOf hcall herr
    obtain ⟨cs, hcs, hclean, hm⟩ := commentsOf_marshalled r hcount harray hrecords
    refine ⟨cs, t, by rw [ht, hcs], fun o hindent hwidth => ?_⟩
    obtain ⟨native, hnative, hcarries⟩ := nativeOptions_of_fits o (fun c hc => (hclean c hc).1)
      (cIntFields_fit o (fun c hc => (hclean c hc).2) hindent hwidth)
    exact ⟨native, hnative, comments_eq_of_carries hcarries hm,
      fun tree => deparseWithComments_eq_run e tree o hnative⟩
  · obtain ⟨native, hnative, hcarries⟩ := nativeOptions_of_fits o hnul hfit
    exact ⟨native, hnative, mapM_copyComment_of_marshals hcarries.marshals⟩

/-- The comments engine's answer with one comment and one null record. -/
def oneCommentReply : Scripted.Response :=
  { comments := some [some
      { matchLocation := 9, newlinesAfter := 1, text := some [0x2d, 0x2d, 0x20, 0x63] }, none] }

/-- The comment of `select 1 -- c` goes back to a deparse as the record it was read from. -/
theorem extracted_comment_goes_back :
    ∃ cs t, extractComments Scripted.direct "select 1 -- c"
        (Scripted.State.ofScript [oneCommentReply]) = .ok (.ok cs) t ∧
      ∃ native, nativeOptions {} cs = .ok native ∧
        native.comments = some
          [{ matchLocation := 9, newlinesAfter := 1, text := some [0x2d, 0x2d, 0x20, 0x63] }] := by
  have hbuf : Buffer.ofText "select 1 -- c" = .ok ⟨Utf8.encode "select 1 -- c", false⟩ := by
    rw [Buffer.ofText_eq, Utf8.idxOf?_encode_of_no_nul (by decide)]
  obtain ⟨cs, t, hex, hdeparse⟩ := (extracted_comments_round_trip Scripted.direct "select 1 -- c"
    ⟨Utf8.encode "select 1 -- c", false⟩ (Scripted.State.ofScript [oneCommentReply]) _
    oneCommentReply.commentsReply hbuf rfl rfl
    (by decide) (.inr rfl) (by
      intro x hx
      simp only [CommentsReply.records, Scripted.Response.commentsReply, oneCommentReply] at hx
      simp at hx
      subst hx
      exact ⟨by decide, by decide, by decide, _, _, rfl, by decide, rfl⟩)).1
  obtain ⟨native, hnative, hcomments, -⟩ := hdeparse {} (by decide) (by decide)
  exact ⟨cs, t, hex, native, hnative, hcomments⟩

end Parser
end PgBinding
