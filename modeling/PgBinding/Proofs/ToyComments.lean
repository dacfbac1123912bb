import Mathlib
import PgBinding.Proofs.ToySplitting
import PgBinding.Proofs.CommentExtraction

/-!
# Comments of the toy grammar

The toy engine has two readers of one comment syntax: `commentsFrom` finds the comments of an
input, `stripFrom` removes them. `Layout` states the syntax as a grammar: an input is code
characters, at none of which a comment opens, and comments, each recorded at the byte offset of
its opening with the newlines right before and right after it. A block comment runs from its
`/*` to the first `*/` that begins at or after the opening's star, or to the end of the input; a
line comment runs from its `--` up to the next newline, or to the end.

`layout_iff_comments`: the comments found in an input are exactly those of its layout, which is
unique (`Layout.unique`). `Layout.strip`: what a layout leaves of the input is what stripping
leaves, provided no comment begins `/*/`. The stripper looks for the closing `*/` only after the
opening, so it reads `/*/ x */` as one comment where the finder stops at the third character.
`extracted_comments_lay_out_text` carries the layout to what extracting comments through the
default engine answers.
-/

namespace PgBinding
namespace Toy

/-! ## The grammar -/

/-- A comment opens at the front of `cs`. -/
def OpensComment (cs : List Char) : Prop := ['/', '*'] <+: cs ∨ ['-', '-'] <+: cs

/-- A block comment not closed yet: its opening, then text in which no `*/` begins, the
opening's star counted. -/
def OpenBlock (u : List Char) : Prop := ∃ body, u = '/' :: '*' :: body ∧ ¬['*', '/'] <:+: '*' :: body

/-- A line comment not ended yet: its opening, then text without a newline. -/
def OpenLine (u : List Char) : Prop := ∃ body, u = '-' :: '-' :: body ∧ '\n' ∉ body

/-- A block comment followed by `rest`: closed by a slash right after a star, or running to the
end of the input. -/
def BlockComment (t rest : List Char) : Prop :=
  (∃ u, OpenBlock u ∧ u.getLast? = some '*' ∧ t = u ++ ['/']) ∨ (OpenBlock t ∧ rest = [])

/-- A line comment followed by `rest`: it ends at a newline, which it leaves, or at the end of
the input. -/
def LineComment (t rest : List Char) : Prop := OpenLine t ∧ (rest = [] ∨ rest.head? = some '\n')

/-- The comment `t` that follows `ctx` and is followed by `rest`. -/
def Comment.between (ctx t rest : List Char) : Comment :=
  ⟨byteLength ctx, leadingNewlines ctx.reverse, leadingNewlines rest, String.ofList t⟩

/-- `Layout ctx cs found out`: after `ctx`, the input `cs` holds the comments `found`, and
removing them leaves `out`, a block comment leaving a blank. -/
inductive Layout : List Char → List Char → List Comment → List Char → Prop
  | nil (ctx : List Char) : Layout ctx [] [] []
  | code {ctx cs out : List Char} {found : List Comment} {c : Char} :
      ¬OpensComment (c :: cs) → Layout (ctx ++ [c]) cs found out →
      Layout ctx (c :: cs) found (c :: out)
  | block {ctx t rest out : List Char} {found : List Comment} :
      BlockComment t rest → Layout (ctx ++ t) rest found out →
      Layout ctx (t ++ rest) (Comment.between ctx t rest :: found) (' ' :: out)
  | line {ctx t rest out : List Char} {found : List Comment} :
      LineComment t rest → Layout (ctx ++ t) rest found out →
      Layout ctx (t ++ rest) (Comment.between ctx t rest :: found) out

/-! ## Newline counts -/

@[simp] theorem leadingNewlines_nil : leadingNewlines [] = 0 := rfl

theorem leadingNewlines_le_length (cs : List Char) : leadingNewlines cs ≤ cs.length :=
  (List.takeWhile_sublist _).length_le

/-- Reading one more character: a newline adds to the newlines before the next one, any other
character ends them. -/
theorem leadingNewlines_reverse_snoc (ctx : List Char) (c : Char) :
    leadingNewlines (ctx ++ [c]).reverse = if c = '\n' then leadingNewlines ctx.reverse + 1 else 0 := by
  by_cases hc : c = '\n' <;> simp [leadingNewlines, hc]

theorem leadingNewlines_reverse_of_getLast {ctx t : List Char} {c : Char}
    (ht : t.getLast? = some c) (hc : c ≠ '\n') : leadingNewlines (ctx ++ t).reverse = 0 := by
  obtain ⟨u, rfl⟩ := List.getLast?_eq_some_iff.1 ht
  rw [← List.append_assoc, leadingNewlines_reverse_snoc, if_neg hc]

/-! ## Openings -/

/-- No comment opens at a character that is not a slash before a star or a dash before a
dash: the form the equations of both readers take for a code character. -/
theorem not_opensComment_cons {c : Char} {cs : List Char}
    (hblock : ∀ r, c = '/' → cs = '*' :: r → False) (hline : ∀ r, c = '-' → cs = '-' :: r → False) :
    ¬OpensComment (c :: cs) := by
  rintro (⟨r, hr⟩ | ⟨r, hr⟩)
  · simp only [List.cons_append, List.cons.injEq] at hr
    exact hblock r hr.1.symm (by simp [← hr.2])
  · simp only [List.cons_append, List.cons.injEq] at hr
    exact hline r hr.1.symm (by simp [← hr.2])

theorem not_opensComment_newline (rest : List Char) : ¬OpensComment ('\n' :: rest) :=
  not_opensComment_cons (fun _ h => nomatch h) (fun _ h => nomatch h)

theorem OpenBlock.opening : OpenBlock ['/', '*'] := ⟨[], rfl, by decide⟩

/-- A block comment stays open on every character but the slash after a star. -/
theorem OpenBlock.snoc {u : List Char} {c : Char} (hu : OpenBlock u)
    (hc : ¬(u.getLast? = some '*' ∧ c = '/')) : OpenBlock (u ++ [c]) := by
  obtain ⟨body, rfl, hno⟩ := hu
  refine ⟨body ++ [c], rfl, ?_⟩
  rw [← List.cons_append, List.infix_concat_iff]
  rintro (hend | hmid)
  · -- a closing at the end: the character is a slash after the star that ended the text
    obtain hnil | ⟨v, hv, hsuf⟩ := List.suffix_concat_iff.1 hend
    · exact nomatch hnil
    · have hsplit : v ++ [c] = ['*'] ++ ['/'] := hv.symm
      obtain ⟨rfl, hc'⟩ := List.append_inj' hsplit rfl
      obtain ⟨w, hw⟩ := hsuf
      apply hc
      refine ⟨?_, List.singleton_inj.1 hc'⟩
      rw [List.getLast?_cons_cons, ← hw, List.getLast?_concat]
  · exact hno hmid

theorem OpenLine.opening : OpenLine ['-', '-'] := ⟨[], rfl, List.not_mem_nil⟩

/-- A line comment stays open on every character but a newline. -/
theorem OpenLine.snoc {u : List Char} {c : Char} (hu : OpenLine u) (hc : c ≠ '\n') :
    OpenLine (u ++ [c]) := by
  obtain ⟨body, rfl, hno⟩ := hu
  refine ⟨body ++ [c], rfl, ?_⟩
  simp [hno, Ne.symm hc]

/-- A line comment does not end in a newline. -/
theorem OpenLine.getLast {u : List Char} (hu : OpenLine u) : ∃ c, u.getLast? = some c ∧ c ≠ '\n' := by
  obtain ⟨body, rfl, hno⟩ := hu
  rcases List.eq_nil_or_concat' body with rfl | ⟨body, c, rfl⟩
  · exact ⟨'-', rfl, by decide⟩
  · refine ⟨c, ?_, fun h => hno (by simp [h])⟩
    rw [← List.cons_append, ← List.cons_append, List.getLast?_concat]

/-! ## The comment finder lays its input out -/

/-- What the comment finder holds in mode `m` at byte `pos`, after `nl` newlines, when `ctx` is
the input before its position in code, or before the comment it is in: offsets and newline
counts are those of `ctx`, and a comment's characters so far (reversed) keep it open, with the
star flag telling whether the last of them is a star. -/
def FindMode.Reads : FindMode → List Char → Nat → Nat → Prop
  | .code, ctx, pos, nl => pos = byteLength ctx ∧ nl = leadingNewlines ctx.reverse
  | .block s b t star, ctx, pos, _ =>
    s = byteLength ctx ∧ b = leadingNewlines ctx.reverse ∧ pos = s + byteLength t ∧
      OpenBlock t.reverse ∧ (star = true ↔ t.reverse.getLast? = some '*')
  | .line s b t, ctx, pos, _ =>
    s = byteLength ctx ∧ b = leadingNewlines ctx.reverse ∧ pos = s + byteLength t ∧
      OpenLine t.reverse

/-- From every state the finder can be in, the comments it goes on to find lay out the rest of
the input, together with the comment it is in. The induction follows the finder's own
recursion, each case building the layout of its input from that of the call it makes. -/
theorem layout_commentsFrom {m : FindMode} {pos nl : Nat} {cs ctx : List Char}
    (h : m.Reads ctx pos nl) :
    ∃ out, Layout ctx (m.text.reverse ++ cs) (commentsFrom m pos nl cs) out := by
  fun_induction commentsFrom m pos nl cs generalizing ctx with
  | case1 pos nl rest ih =>
    obtain ⟨rfl, rfl⟩ := h
    have hreads : (FindMode.block (byteLength ctx) (leadingNewlines ctx.reverse) ['*', '/'] true).Reads
        ctx (byteLength ctx + 2) 0 :=
      ⟨rfl, rfl, rfl, OpenBlock.opening, by decide⟩
    exact ih hreads
  | case2 pos nl rest ih =>
    obtain ⟨rfl, rfl⟩ := h
    have hreads : (FindMode.line (byteLength ctx) (leadingNewlines ctx.reverse) ['-', '-']).Reads
        ctx (byteLength ctx + 2) 0 :=
      ⟨rfl, rfl, rfl, OpenLine.opening⟩
    exact ih hreads
  | case3 pos nl c rest hblock hline ih =>
    obtain ⟨rfl, rfl⟩ := h
    have hreads : FindMode.code.Reads (ctx ++ [c]) (byteLength ctx + c.utf8Size)
        (if c = '\n' then leadingNewlines ctx.reverse + 1 else 0) :=
      ⟨by simp [byteLength_append], (leadingNewlines_reverse_snoc ctx c).symm⟩
    obtain ⟨out, hout⟩ := ih hreads
    exact ⟨c :: out, .code (not_opensComment_cons hblock hline) hout⟩
  | case4 s b t star pos _ c rest hclose ih =>
    obtain ⟨rfl, rfl, rfl, hopen, hstar⟩ := h
    obtain ⟨hs, rfl⟩ : star = true ∧ c = '/' := by simpa using hclose
    -- the slash closes the comment: it is the text so far, which ends in a star, and the slash
    have hlast : t.reverse.getLast? = some '*' := hstar.1 hs
    have hreads : FindMode.code.Reads (ctx ++ (t.reverse ++ ['/'])) (byteLength ctx + byteLength t + 1) 0 :=
      ⟨by simp [byteLength_append, show '/'.utf8Size = 1 from rfl]; omega,
        (leadingNewlines_reverse_of_getLast List.getLast?_concat (by decide)).symm⟩
    obtain ⟨out, hout⟩ := ih hreads
    refine ⟨' ' :: out, ?_⟩
    have hlayout := Layout.block (.inl ⟨t.reverse, hopen, hlast, rfl⟩) hout
    simpa [FindMode.text, Comment.between] using hlayout
  | case5 s b t star pos _ c rest hopen' ih =>
    obtain ⟨rfl, rfl, rfl, hopen, hstar⟩ := h
    have hreads : (FindMode.block (byteLength ctx) (leadingNewlines ctx.reverse) (c :: t)
        (decide (c = '*'))).Reads ctx (byteLength ctx + byteLength t + c.utf8Size) 0 := by
      refine ⟨rfl, rfl, by simp; omega, ?_, by simp⟩
      rw [List.reverse_cons]
      exact hopen.snoc fun h => hopen' (by simp [hstar.2 h.1, h.2])
    obtain ⟨out, hout⟩ := ih hreads
    exact ⟨out, by simpa [FindMode.text] using hout⟩
  | case6 s b t pos _ rest ih =>
    obtain ⟨rfl, rfl, rfl, hopen⟩ := h
    -- the newline ends the comment and is read as code after it
    obtain ⟨l, hl, hln⟩ := hopen.getLast
    have hreads : FindMode.code.Reads (ctx ++ t.reverse ++ ['\n']) (byteLength ctx + byteLength t + 1) 1 := by
      refine ⟨by simp [byteLength_append]; rfl, ?_⟩
      rw [leadingNewlines_reverse_snoc, if_pos rfl, leadingNewlines_reverse_of_getLast hl hln]
    obtain ⟨out, hout⟩ := ih hreads
    have hlayout := Layout.line ⟨hopen, .inr rfl⟩ (.code (not_opensComment_newline rest) hout)
    exact ⟨'\n' :: out, by simpa [FindMode.text, Comment.between] using hlayout⟩
  | case7 s b t pos _ c rest hc ih =>
    obtain ⟨rfl, rfl, rfl, hopen⟩ := h
    have hreads : (FindMode.line (byteLength ctx) (leadingNewlines ctx.reverse) (c :: t)).Reads
        ctx (byteLength ctx + byteLength t + c.utf8Size) 0 := by
      refine ⟨rfl, rfl, by simp; omega, ?_⟩
      rw [List.reverse_cons]
      exact hopen.snoc hc
    obtain ⟨out, hout⟩ := ih hreads
    exact ⟨out, by simpa [FindMode.text] using hout⟩
  | case8 =>
    exact ⟨[], .nil ctx⟩
  | case9 s b t star =>
    obtain ⟨rfl, rfl, -, hopen, -⟩ := h
    have hlayout := Layout.block (.inr ⟨hopen, rfl⟩) (.nil (ctx ++ t.reverse))
    exact ⟨[' '], by simpa [FindMode.text, Comment.between] using hlayout⟩
  | case10 s b t =>
    obtain ⟨rfl, rfl, -, hopen⟩ := h
    have hlayout := Layout.line ⟨hopen, .inl rfl⟩ (.nil (ctx ++ t.reverse))
    exact ⟨[], by simpa [FindMode.text, Comment.between] using hlayout⟩

/-- The comments found in an input lay it out. -/
theorem layout_comments (sql : String) : ∃ out, Layout [] sql.toList (comments sql) out :=
  layout_commentsFrom (m := .code) ⟨rfl, rfl⟩

/-! ## What stripping leaves -/

theorem stripFrom_code_cons {c : Char} {cs : List Char} (h : ¬OpensComment (c :: cs)) :
    stripFrom .code (c :: cs) = c :: stripFrom .code cs :=
  stripFrom.eq_3 c cs (fun r hc hr => h (.inl ⟨r, by simp [hc, hr]⟩))
    (fun r hc hr => h (.inr ⟨r, by simp [hc, hr]⟩))

/-- One character of a block comment, in which no `*/` begins counting the star just read: the
stripper reads on, a star now just read if the character is one. -/
theorem stripFrom_block_step {star : Bool} {c : Char} {v : List Char} (w : List Char)
    (hv : ¬['*', '/'] <:+: (if star then ['*'] else []) ++ c :: v) :
    stripFrom (.block star) (c :: w) = stripFrom (.block (c = '*')) w ∧
      ¬['*', '/'] <:+: (if decide (c = '*') then ['*'] else []) ++ v := by
  have hclose : ¬(star = true ∧ c = '/') := by
    rintro ⟨rfl, rfl⟩
    exact hv (List.infix_append [] _ v)
  -- what is left to read after the character lies within what was left before it
  have hafter : (if decide (c = '*') then ['*'] else []) ++ v <:+:
      (if star then ['*'] else []) ++ c :: v := by
    have hcv : c :: v <:+: (if star then ['*'] else []) ++ c :: v := (List.suffix_append _ _).isInfix
    by_cases hc : c = '*'
    · subst hc
      simpa using hcv
    · simpa [hc] using (List.infix_cons (List.infix_refl v)).trans hcv
  rw [stripFrom, if_neg (by simpa using hclose)]
  exact ⟨rfl, fun h => hv (h.trans hafter)⟩

/-- In a block comment, the stripper skips text in which no `*/` begins, counting the star it
has just read. -/
theorem stripFrom_block_of_open {star : Bool} {v : List Char}
    (hv : ¬['*', '/'] <:+: (if star then ['*'] else []) ++ v) : stripFrom (.block star) v = [] := by
  induction v generalizing star with
  | nil => rfl
  | cons c v ih =>
    obtain ⟨hstep, hv'⟩ := stripFrom_block_step v hv
    rw [hstep]
    exact ih hv'

/-- The stripper leaves a block comment at the first `*/` after the text it has skipped. -/
theorem stripFrom_block_close {star : Bool} {v : List Char} (rest : List Char)
    (hv : ¬['*', '/'] <:+: (if star then ['*'] else []) ++ v) :
    stripFrom (.block star) (v ++ '*' :: '/' :: rest) = stripFrom .code rest := by
  induction v generalizing star with
  | nil => simp [stripFrom]
  | cons c v ih =>
    obtain ⟨hstep, hv'⟩ := stripFrom_block_step (v ++ '*' :: '/' :: rest) hv
    rw [List.cons_append, hstep]
    exact ih hv'

/-- The stripper turns a block comment into a blank, unless it begins `/*/`: the stripper starts
looking for the closing after the opening, so the star of the opening does not count. -/
theorem stripFrom_blockComment {t rest : List Char} (hb : BlockComment t rest)
    (ht : ¬['/', '*', '/'] <+: t) : stripFrom .code (t ++ rest) = ' ' :: stripFrom .code rest := by
  rcases hb with ⟨u, ⟨body, rfl, hno⟩, hlast, rfl⟩ | ⟨⟨body, rfl, hno⟩, rfl⟩
  · -- closed: the body is some text and the star before the closing slash
    rw [List.getLast?_cons_cons] at hlast
    obtain ⟨w, hw⟩ := List.getLast?_eq_some_iff.1 hlast
    rcases w with _ | ⟨_, v⟩
    · obtain rfl : body = [] := by simpa using hw
      exact absurd ⟨[], rfl⟩ ht
    · rw [List.cons_append, List.cons.injEq] at hw
      obtain ⟨-, rfl⟩ := hw
      have hv : ¬['*', '/'] <:+: v := fun h =>
        hno (h.trans (List.infix_cons (List.infix_append [] v ['*'])))
      simp only [List.cons_append, List.append_assoc, List.nil_append, stripFrom.eq_1]
      rw [@stripFrom_block_close false v rest (by simpa using hv)]
  · -- open: the comment runs to the end of the input
    have hv : ¬['*', '/'] <:+: body := fun h => hno (List.infix_cons h)
    simp only [List.append_nil, stripFrom.eq_1]
    rw [@stripFrom_block_of_open false body (by simpa using hv)]
    rfl

theorem stripFrom_line_append {v : List Char} (hv : '\n' ∉ v) (rest : List Char) :
    stripFrom .line (v ++ rest) = stripFrom .line rest := by
  induction v with
  | nil => rfl
  | cons c v ih =>
    have hc : c ≠ '\n' := fun h => hv (h ▸ List.mem_cons_self)
    rw [List.cons_append, stripFrom, if_neg hc]
    exact ih fun h => hv (List.mem_cons_of_mem c h)

/-- The stripper drops a line comment and keeps the newline that ends it. -/
theorem stripFrom_lineComment {t rest : List Char} (hl : LineComment t rest) :
    stripFrom .code (t ++ rest) = stripFrom .code rest := by
  obtain ⟨⟨body, rfl, hno⟩, hend⟩ := hl
  simp only [List.cons_append, stripFrom.eq_2]
  rw [stripFrom_line_append hno]
  rcases hend with rfl | hnl
  · rfl
  · obtain ⟨r, rfl⟩ : ∃ r, rest = '\n' :: r := by
      cases rest with
      | nil => exact nomatch hnl
      | cons x r => exact ⟨r, by simpa using hnl⟩
    rw [stripFrom_code_cons (not_opensComment_newline r)]
    simp [stripFrom]

/-- Removing the comments of a layout leaves what the stripper leaves, when none of them begins
`/*/`. -/
theorem Layout.strip {ctx cs out : List Char} {found : List Comment} (h : Layout ctx cs found out)
    (hfound : ∀ c ∈ found, ¬['/', '*', '/'] <+: c.text.toList) : out = stripFrom .code cs := by
  induction h with
  | nil => rfl
  | code hopen _ ih => rw [stripFrom_code_cons hopen, ih hfound]
  | block hb _ ih =>
    have ht := hfound _ List.mem_cons_self
    rw [Comment.between, String.toList_ofList] at ht
    rw [stripFrom_blockComment hb ht, ih fun c hc => hfound c (List.mem_cons_of_mem _ hc)]
  | line hl _ ih =>
    rw [stripFrom_lineComment hl, ih fun c hc => hfound c (List.mem_cons_of_mem _ hc)]

/-! ## One layout per input -/

theorem BlockComment.opening {t rest : List Char} (h : BlockComment t rest) : ['/', '*'] <+: t := by
  rcases h with ⟨u, ⟨body, rfl, -⟩, -, rfl⟩ | ⟨⟨body, rfl, -⟩, -⟩
  · exact ⟨body ++ ['/'], rfl⟩
  · exact ⟨body, rfl⟩

theorem LineComment.opening {t rest : List Char} (h : LineComment t rest) : ['-', '-'] <+: t := by
  obtain ⟨⟨body, rfl, -⟩, -⟩ := h
  exact ⟨body, rfl⟩

theorem BlockComment.opensComment {t rest : List Char} (h : BlockComment t rest) :
    OpensComment (t ++ rest) :=
  .inl (h.opening.trans (List.prefix_append _ _))

theorem LineComment.opensComment {t rest : List Char} (h : LineComment t rest) :
    OpensComment (t ++ rest) :=
  .inr (h.opening.trans (List.prefix_append _ _))

theorem OpensComment.ne_nil {cs : List Char} (h : OpensComment cs) : cs ≠ [] := by
  rintro rfl
  rcases h with h | h <;> simp at h

/-- No text begins with both a block comment and a line comment. -/
theorem BlockComment.not_line {t r t' r' : List Char} (hb : BlockComment t r)
    (hl : LineComment t' r') (he : t ++ r = t' ++ r') : False := by
  obtain ⟨x, hx⟩ := hb.opening.trans (List.prefix_append t r)
  obtain ⟨y, hy⟩ := hl.opening.trans (List.prefix_append t' r')
  rw [← he, ← hx] at hy
  simp at hy

/-- A block comment closed at a star-slash is no beginning of an open one. -/
theorem OpenBlock.not_prefix_of_closed {u v : List Char} (hu : OpenBlock u)
    (hlast : u.getLast? = some '*') (hv : OpenBlock v) : ¬u ++ ['/'] <+: v := by
  obtain ⟨body, rfl, -⟩ := hu
  obtain ⟨body', rfl, hno⟩ := hv
  intro hpre
  rw [List.getLast?_cons_cons] at hlast
  obtain ⟨w, hw⟩ := List.getLast?_eq_some_iff.1 hlast
  -- the closing star-slash would lie in the open comment after its slash
  have hclose : ['*', '/'] <:+: '*' :: body ++ ['/'] := ⟨w, [], by rw [hw]; simp⟩
  rw [List.cons_append, List.cons_prefix_cons] at hpre
  exact hno (hclose.trans hpre.2.isInfix)

/-- A block comment that a longer one begins with is that comment: where a block comment ends is
fixed by the text. -/
theorem BlockComment.eq_nil_of_append {t r a r' : List Char} (h : BlockComment t r)
    (h' : BlockComment (t ++ a) r') (hr : r = a ++ r') : a = [] := by
  rcases h with ⟨u, hu, hlast, rfl⟩ | ⟨-, rfl⟩
  · rcases h' with ⟨u', hu', -, ht'⟩ | ⟨hopen', -⟩
    · -- both closed: the longer would hold the shorter's closing before its own
      rcases List.eq_nil_or_concat' a with rfl | ⟨a', x, rfl⟩
      · rfl
      · have hsnoc : (u ++ ['/'] ++ a') ++ [x] = u' ++ ['/'] := by
          simpa only [List.append_assoc] using ht'
        have hu'eq := (List.append_inj' hsnoc rfl).1
        exact absurd (hu'eq ▸ List.prefix_append _ _) (hu.not_prefix_of_closed hlast hu')
    · exact absurd (List.prefix_append _ _) (hu.not_prefix_of_closed hlast hopen')
  · exact (List.append_eq_nil_iff.1 hr.symm).1

/-- A line comment that a longer one begins with is that comment: it ends at the newline. -/
theorem LineComment.eq_nil_of_append {t r a r' : List Char} (h : LineComment t r)
    (h' : LineComment (t ++ a) r') (hr : r = a ++ r') : a = [] := by
  obtain ⟨⟨body, rfl, -⟩, hend⟩ := h
  obtain ⟨⟨body', hbody', hno'⟩, -⟩ := h'
  cases a with
  | nil => rfl
  | cons x a =>
    have hx : x = '\n' := by
      rcases hend with hnil | hnl
      · simp [hr] at hnil
      · simpa [hr] using hnl
    simp only [List.cons_append, List.cons.injEq, true_and] at hbody'
    rw [← hbody'] at hno'
    exact absurd (by simp [hx]) hno'

theorem BlockComment.unique {t₁ r₁ t₂ r₂ : List Char} (h₁ : BlockComment t₁ r₁)
    (h₂ : BlockComment t₂ r₂) (he : t₁ ++ r₁ = t₂ ++ r₂) : t₁ = t₂ := by
  rcases List.append_eq_append_iff.1 he with ⟨a, rfl, hr⟩ | ⟨a, rfl, hr⟩
  · rw [h₁.eq_nil_of_append h₂ hr, List.append_nil]
  · rw [h₂.eq_nil_of_append h₁ hr, List.append_nil]

theorem LineComment.unique {t₁ r₁ t₂ r₂ : List Char} (h₁ : LineComment t₁ r₁)
    (h₂ : LineComment t₂ r₂) (he : t₁ ++ r₁ = t₂ ++ r₂) : t₁ = t₂ := by
  rcases List.append_eq_append_iff.1 he with ⟨a, rfl, hr⟩ | ⟨a, rfl, hr⟩
  · rw [h₁.eq_nil_of_append h₂ hr, List.append_nil]
  · rw [h₂.eq_nil_of_append h₁ hr, List.append_nil]

/-- How a layout begins: at the end of the input, with a code character, or with a comment. -/
theorem Layout.cases_eq {ctx cs out : List Char} {found : List Comment} (h : Layout ctx cs found out) :
    (cs = [] ∧ found = [] ∧ out = []) ∨
    (∃ c cs' out', cs = c :: cs' ∧ out = c :: out' ∧ ¬OpensComment (c :: cs') ∧
      Layout (ctx ++ [c]) cs' found out') ∨
    (∃ t rest found' out', cs = t ++ rest ∧ found = Comment.between ctx t rest :: found' ∧
      out = ' ' :: out' ∧ BlockComment t rest ∧ Layout (ctx ++ t) rest found' out') ∨
    (∃ t rest found' out', cs = t ++ rest ∧ found = Comment.between ctx t rest :: found' ∧
      out = out' ∧ LineComment t rest ∧ Layout (ctx ++ t) rest found' out') := by
  cases h with
  | nil => exact .inl ⟨rfl, rfl, rfl⟩
  | code hopen h => exact .inr (.inl ⟨_, _, _, rfl, rfl, hopen, h⟩)
  | block hb h => exact .inr (.inr (.inl ⟨_, _, _, _, rfl, rfl, rfl, hb, h⟩))
  | line hl h => exact .inr (.inr (.inr ⟨_, _, _, _, rfl, rfl, rfl, hl, h⟩))

/-- An input has one layout: at each point the text decides between code and a comment, and
where each comment ends. -/
theorem Layout.unique {ctx cs out₁ out₂ : List Char} {found₁ found₂ : List Comment}
    (h₁ : Layout ctx cs found₁ out₁) (h₂ : Layout ctx cs found₂ out₂) :
    found₁ = found₂ ∧ out₁ = out₂ := by
  induction h₁ generalizing found₂ out₂ with
  | nil =>
    rcases h₂.cases_eq with ⟨-, rfl, rfl⟩ | ⟨c, cs, out, hcs, -⟩ |
        ⟨t, rest, found, out, hcs, -, -, hb, -⟩ | ⟨t, rest, found, out, hcs, -, -, hl, -⟩
    · exact ⟨rfl, rfl⟩
    · exact nomatch hcs
    · exact absurd hcs.symm hb.opensComment.ne_nil
    · exact absurd hcs.symm hl.opensComment.ne_nil
  | @code ctx cs out found c hopen _ ih =>
    rcases h₂.cases_eq with ⟨hcs, -, -⟩ | ⟨c', cs', out', hcs, rfl, -, h₂⟩ |
        ⟨t, rest, found', out', hcs, -, -, hb, -⟩ | ⟨t, rest, found', out', hcs, -, -, hl, -⟩
    · exact nomatch hcs
    · obtain ⟨rfl, rfl⟩ := List.cons.inj hcs
      obtain ⟨rfl, rfl⟩ := ih h₂
      exact ⟨rfl, rfl⟩
    · exact absurd (hcs ▸ hb.opensComment) hopen
    · exact absurd (hcs ▸ hl.opensComment) hopen
  | @block ctx t rest out found hb _ ih =>
    rcases h₂.cases_eq with ⟨hcs, -, -⟩ | ⟨c, cs, out', hcs, -, hopen, -⟩ |
        ⟨t', rest', found', out', hcs, rfl, rfl, hb', h₂⟩ | ⟨t', rest', found', out', hcs, -, -, hl, -⟩
    · exact absurd hcs hb.opensComment.ne_nil
    · exact absurd (hcs ▸ hb.opensComment) hopen
    · obtain rfl := hb.unique hb' hcs
      obtain rfl := List.append_cancel_left hcs
      obtain ⟨rfl, rfl⟩ := ih h₂
      exact ⟨rfl, rfl⟩
    · exact (hb.not_line hl hcs).elim
  | @line ctx t rest out found hl _ ih =>
    rcases h₂.cases_eq with ⟨hcs, -, -⟩ | ⟨c, cs, out', hcs, -, hopen, -⟩ |
        ⟨t', rest', found', out', hcs, -, -, hb, -⟩ | ⟨t', rest', found', out', hcs, rfl, rfl, hl', h₂⟩
    · exact absurd hcs hl.opensComment.ne_nil
    · exact absurd (hcs ▸ hl.opensComment) hopen
    · exact (hb.not_line hl hcs.symm).elim
    · obtain rfl := hl.unique hl' hcs
      obtain rfl := List.append_cancel_left hcs
      obtain ⟨rfl, rfl⟩ := ih h₂
      exact ⟨rfl, rfl⟩

/-- The comments the finder finds in an input are exactly those of a layout of it. -/
theorem layout_iff_comments (sql : String) (found : List Comment) :
    (∃ out, Layout [] sql.toList found out) ↔ found = comments sql := by
  obtain ⟨out, hout⟩ := layout_comments sql
  constructor
  · rintro ⟨out', h⟩
    exact (h.unique hout).1
  · rintro rfl
    exact ⟨out, hout⟩

/-! ## Where the comments of a layout lie -/

/-- The numbers of a comment fit a C int. -/
def Comment.Fits (c : Comment) : Prop :=
  c.location < 2 ^ 31 ∧ c.newlinesBefore < 2 ^ 31 ∧ c.newlinesAfter < 2 ^ 31

section Layout

variable {ctx cs out : List Char} {found : List Comment}

/-- Each comment of a layout is a slice of the input, at the byte offset of the text before it,
with the newlines that end the text before it and that begin the text after it. -/
theorem Layout.slices (h : Layout ctx cs found out) :
    ∀ c ∈ found, ∃ pre post, ctx ++ cs = pre ++ c.text.toList ++ post ∧ c.location = byteLength pre ∧
      c.newlinesBefore = leadingNewlines pre.reverse ∧ c.newlinesAfter = leadingNewlines post := by
  induction h with
  | nil => exact fun c hc => nomatch hc
  | @code ctx cs out found c _ _ ih =>
    simpa using ih
  | @block ctx t rest out found _ _ ih | @line ctx t rest out found _ _ ih =>
    rintro c (_ | ⟨_, hc⟩)
    · exact ⟨ctx, rest, by simp [Comment.between], rfl, rfl, rfl⟩
    · simpa using ih c hc

/-- Every comment of a layout begins with its opening. -/
theorem Layout.opens (h : Layout ctx cs found out) : ∀ c ∈ found, OpensComment c.text.toList := by
  induction h with
  | nil => exact fun c hc => nomatch hc
  | code _ _ ih => exact ih
  | block hb _ ih =>
    rintro c (_ | ⟨_, hc⟩)
    · rw [Comment.between, String.toList_ofList]
      exact .inl hb.opening
    · exact ih c hc
  | line hl _ ih =>
    rintro c (_ | ⟨_, hc⟩)
    · rw [Comment.between, String.toList_ofList]
      exact .inr hl.opening
    · exact ih c hc

theorem OpensComment.two_le_length {cs : List Char} (h : OpensComment cs) : 2 ≤ cs.length := by
  rcases h with ⟨r, rfl⟩ | ⟨r, rfl⟩ <;> simp

/-- A layout has no more comments than its input has characters. -/
theorem Layout.length_le (h : Layout ctx cs found out) : found.length ≤ cs.length := by
  have hopens := h.opens
  induction h with
  | nil => exact le_refl 0
  | code _ _ ih =>
    have := ih hopens
    simp only [List.length_cons]
    omega
  | @block ctx t rest out found _ _ ih | @line ctx t rest out found _ _ ih =>
    have hlen := (hopens _ List.mem_cons_self).two_le_length
    have := ih fun c hc => hopens c (List.mem_cons_of_mem _ hc)
    simp only [Comment.between, String.toList_ofList] at hlen
    simp only [List.length_cons, List.length_append]
    omega

/-- Every comment of a layout lies after the text before it. -/
theorem Layout.le_location (h : Layout ctx cs found out) : ∀ c ∈ found, byteLength ctx ≤ c.location := by
  induction h with
  | nil => exact fun c hc => nomatch hc
  | code _ _ ih =>
    intro c hc
    have := ih c hc
    simp only [byteLength_append] at this
    omega
  | @block ctx t rest out found _ _ ih | @line ctx t rest out found _ _ ih =>
    rintro c (_ | ⟨_, hc⟩)
    · exact le_refl _
    · have := ih c hc
      simp only [byteLength_append] at this
      omega

/-- The comments of a layout come in order, each ending before the next begins. -/
theorem Layout.pairwise (h : Layout ctx cs found out) :
    found.Pairwise fun a b => a.location + byteLength a.text.toList ≤ b.location := by
  induction h with
  | nil => exact .nil
  | code _ _ ih => exact ih
  | @block ctx t rest out found _ hrest ih | @line ctx t rest out found _ hrest ih =>
    refine .cons (fun c hc => ?_) ih
    have := hrest.le_location c hc
    simpa [Comment.between, byteLength_append] using this

/-- The numbers of the comments laid out in an input shorter than `2 ^ 31` bytes fit a C int. -/
theorem Layout.fits (h : Layout [] cs found out) (hlen : byteLength cs < 2 ^ 31) :
    ∀ c ∈ found, c.Fits := by
  intro c hc
  obtain ⟨pre, post, hcs, hloc, hbefore, hafter⟩ := h.slices c hc
  have hsplit : byteLength cs = byteLength pre + byteLength c.text.toList + byteLength post := by
    rw [List.nil_append] at hcs
    rw [hcs, byteLength_append, byteLength_append]
  have hpre := length_le_byteLength pre
  have hpost := length_le_byteLength post
  have hnl := leadingNewlines_le_length pre.reverse
  have hnl' := leadingNewlines_le_length post
  rw [List.length_reverse] at hnl
  refine ⟨?_, ?_, ?_⟩ <;> omega

end Layout

/-! ## Extracting comments through the default engine -/

/-- The record the default engine boxes a comment in. -/
def Comment.record (c : Comment) : CommentRecord :=
  { matchLocation := Int32.ofNat c.location, newlinesBefore := Int32.ofNat c.newlinesBefore
    newlinesAfter := Int32.ofNat c.newlinesAfter, text := some (Utf8.encode c.text) }

/-- A comment as extracting comments answers it. -/
def Comment.toDeparse (c : Comment) : Parser.DeparseComment :=
  ⟨c.location.toUInt32, c.newlinesBefore.toUInt32, c.newlinesAfter.toUInt32, c.text⟩

@[simp] theorem Comment.toDeparse_text (c : Comment) : c.toDeparse.text = c.text := rfl

/-- A comment whose numbers fit is answered with its own numbers. -/
theorem Comment.toDeparse_toNat {c : Comment} (h : c.Fits) :
    c.toDeparse.matchLocation.toNat = c.location ∧ c.toDeparse.newlinesBefore.toNat = c.newlinesBefore ∧
      c.toDeparse.newlinesAfter.toNat = c.newlinesAfter := by
  obtain ⟨h1, h2, h3⟩ := h
  simp only [Comment.toDeparse, Nat.toUInt32_eq]
  refine ⟨UInt32.toNat_ofNat_of_lt' ?_, UInt32.toNat_ofNat_of_lt' ?_, UInt32.toNat_ofNat_of_lt' ?_⟩ <;>
    simp only [UInt32.size] <;> omega

/-- The record of a comment whose numbers fit is copied back as the comment. -/
theorem Comment.record_copies {c : Comment} (h : c.Fits) : c.record.Copies c.toDeparse := by
  obtain ⟨h1, h2, h3⟩ := Comment.toDeparse_toNat h
  refine ⟨?_, ?_, ?_, rfl⟩
  · rw [h1]
    exact Int32.toInt_ofNat_of_lt h.1
  · rw [h2]
    exact Int32.toInt_ofNat_of_lt h.2.1
  · rw [h3]
    exact Int32.toInt_ofNat_of_lt h.2.2

theorem allocComment_default {c : Comment} (h : '\x00' ∉ c.text.toList) (s : State) :
    allocComment {} c s = .ok (some c.record)
      { s with live := .comment c.record :: .cstring (Utf8.encode c.text) :: s.live } := by
  simp only [allocComment, bind, EStateM.bind, allocText_run {} h, track, modify, modifyGet,
    MonadStateOf.modifyGet, EStateM.modifyGet, pure, EStateM.pure, Bool.false_eq_true, if_false,
    List.append_nil]
  rfl

theorem mapM_allocComment_default {cs : List Comment} (h : ∀ c ∈ cs, '\x00' ∉ c.text.toList)
    (s : State) : ∃ t, cs.mapM (allocComment {}) s = .ok (cs.map fun c => some c.record) t := by
  induction cs generalizing s with
  | nil => exact ⟨s, rfl⟩
  | cons c cs ih =>
    obtain ⟨t, ht⟩ := ih (fun c' hc' => h c' (List.mem_cons_of_mem _ hc'))
      { s with live := .comment c.record :: .cstring (Utf8.encode c.text) :: s.live }
    refine ⟨t, ?_⟩
    simp only [List.mapM_cons, bind, EStateM.bind, allocComment_default (h c List.mem_cons_self), ht,
      pure, EStateM.pure, List.map_cons]

/-- The default engine answers the comments of a text without NUL as records that read back as
those comments, when their numbers fit and their count is addressable. -/
theorem deparseComments_default {sql : String} (hnul : '\x00' ∉ sql.toList)
    (hfit : ∀ c ∈ comments sql, c.Fits) (hcount : (comments sql).length ≤ Error.int64Max) (s : State) :
    ∃ r t, (engine {}).deparseComments (Utf8.encode sql) s = .ok (some r) t ∧ r.error = none ∧
      Parser.commentsOf r = .ok ((comments sql).map Comment.toDeparse) := by
  obtain ⟨t, ht⟩ := mapM_allocComment_default (fun c hc => nul_not_mem_comment_text hnul hc)
    { s with dispatched := s.dispatched + 1, lastOptions := s.lastOptions }
  simp only [engine, Bool.false_eq_true, if_false, bind, EStateM.bind, dispatch_run,
    input_run (Utf8.decode_encode sql), Option.isSome_none, ht]
  cases hcs : comments sql with
  | nil => exact ⟨_, _, rfl, rfl, rfl⟩
  | cons c cs =>
    refine ⟨_, _, rfl, rfl, ?_⟩
    rw [Parser.commentsOf_eq_ok_iff_copies]
    refine ⟨.inr ⟨rfl, by rw [← hcs]; simpa using hcount⟩, ?_⟩
    have hrecords : List.filterMap id ((c :: cs).map fun c => some c.record) = (c :: cs).map Comment.record := by
      rw [List.filterMap_map]
      exact congrFun List.filterMap_eq_map _
    simp only [CommentsReply.records, Option.getD_some, List.take_of_length_le (le_refl _), hrecords,
      List.forall₂_map_left_iff, List.forall₂_map_right_iff, List.forall₂_same]
    rw [← hcs]
    exact fun c hc => Comment.record_copies (hfit c hc)

/-- Extracting the comments of a text without NUL and shorter than `2 ^ 31` bytes through the
default engine answers the comments the toy grammar finds. -/
theorem extractComments_default {sql : String} (hnul : '\x00' ∉ sql.toList)
    (hlen : sql.utf8ByteSize < 2 ^ 31) (s : State) :
    ∃ t, Parser.extractComments (engine {}) sql s =
      .ok (.ok ((comments sql).map Comment.toDeparse)) t := by
  obtain ⟨out, hlayout⟩ := layout_comments sql
  have hbytes : byteLength sql.toList < 2 ^ 31 := by rwa [byteLength_toList]
  have hcount : (comments sql).length ≤ Error.int64Max := by
    have hfound := hlayout.length_le
    have hchars := length_le_byteLength sql.toList
    simp only [Error.int64Max]
    omega
  obtain ⟨r, t, hcall, herr, hread⟩ := deparseComments_default hnul (hlayout.fits hbytes) hcount
    ((engine {}).note (Parser.dispatchRecord .deparseComments) s)
  obtain ⟨⟨t', ht'⟩, -⟩ := Parser.extract_comments_materialized (engine {}) sql _ s t r
    (ofText_of_no_nul hnul) hcall herr
  exact ⟨t', by rw [ht', hread]⟩

/-- What extracting the comments of `sql` answers, `ds`: the comments of a layout of `sql`, each
a slice of it at its byte offset, with the newlines right before and right after it, in order
and apart; removing them leaves what the stripper leaves, when none of them begins `/*/`. -/
structure LaidOut (sql : String) (ds : List Parser.DeparseComment) : Prop where
  layout : ∃ found out, ds = found.map Comment.toDeparse ∧ Layout [] sql.toList found out ∧
    ((∀ d ∈ ds, ¬['/', '*', '/'] <+: d.text.toList) → out = stripFrom .code sql.toList)
  slices : ∀ d ∈ ds, ∃ pre post, sql.toList = pre ++ d.text.toList ++ post ∧
    d.matchLocation.toNat = byteLength pre ∧ d.newlinesBefore.toNat = leadingNewlines pre.reverse ∧
    d.newlinesAfter.toNat = leadingNewlines post
  ordered : ds.Pairwise fun a b => a.matchLocation < b.matchLocation ∧
    a.matchLocation.toNat + byteLength a.text.toList ≤ b.matchLocation.toNat

/-- The comments of a layout of an input shorter than `2 ^ 31` bytes, answered as extraction
answers them, lay the input out. -/
theorem Layout.laidOut {sql : String} {found : List Comment} {out : List Char}
    (h : Layout [] sql.toList found out) (hlen : sql.utf8ByteSize < 2 ^ 31) :
    LaidOut sql (found.map Comment.toDeparse) := by
  have hfits := h.fits (by rwa [byteLength_toList])
  refine ⟨⟨found, out, rfl, h, fun hno => h.strip fun c hc => hno _ (List.mem_map_of_mem hc)⟩, ?_, ?_⟩
  · intro d hd
    obtain ⟨c, hc, rfl⟩ := List.mem_map.1 hd
    obtain ⟨pre, post, hcs, hloc, hbefore, hafter⟩ := h.slices c hc
    obtain ⟨h1, h2, h3⟩ := Comment.toDeparse_toNat (hfits c hc)
    exact ⟨pre, post, by simpa using hcs, h1.trans hloc, h2.trans hbefore, h3.trans hafter⟩
  · rw [List.pairwise_map]
    refine h.pairwise.imp_of_mem fun {a b} ha hb hab => ?_
    -- a comment takes at least its two opening bytes, so the offsets strictly increase
    have hopen := (h.opens a ha).two_le_length
    have hbytes := length_le_byteLength a.text.toList
    obtain ⟨ha1, -, -⟩ := Comment.toDeparse_toNat (hfits a ha)
    obtain ⟨hb1, -, -⟩ := Comment.toDeparse_toNat (hfits b hb)
    refine ⟨UInt32.lt_iff_toNat_lt.2 ?_, ?_⟩ <;> simp only [ha1, hb1, Comment.toDeparse_text] <;> omega

/-- Extracting comments through the default engine, from a text without NUL and shorter than
`2 ^ 31` bytes, answers comments that lay the text out. -/
theorem extracted_comments_lay_out_text (sql : String) (hnul : '\x00' ∉ sql.toList)
    (hlen : sql.utf8ByteSize < 2 ^ 31) (s : State) :
    ∃ ds t, Parser.extractComments (engine {}) sql s = .ok (.ok ds) t ∧ LaidOut sql ds := by
  obtain ⟨out, hlayout⟩ := layout_comments sql
  obtain ⟨t, ht⟩ := extractComments_default hnul hlen s
  exact ⟨_, t, ht, hlayout.laidOut hlen⟩

theorem select_comments_laid_out :
    '\x00' ∉ "select /* a */ 1 -- b".toList ∧ "select /* a */ 1 -- b".utf8ByteSize < 2 ^ 31 ∧
      ∃ ds t, Parser.extractComments (engine {}) "select /* a */ 1 -- b" {} = .ok (.ok ds) t ∧
        LaidOut "select /* a */ 1 -- b" ds :=
  ⟨by decide +kernel, by decide +kernel,
    extracted_comments_lay_out_text _ (by decide +kernel) (by decide +kernel) {}⟩

/-- On `/*/ x */` the finder closes the comment at the slash right after its opening, where the
stripper reads the whole text as one comment. -/
theorem slash_star_slash_closes_early :
    (∃ t, Parser.extractComments (engine {}) "/*/ x */" {} = .ok (.ok [{ text := "/*/" }]) t) ∧
      normalize "/*/ x */" = "" := by
  obtain ⟨t, ht⟩ := @extractComments_default "/*/ x */" (by decide +kernel) (by decide +kernel) {}
  have hfound : (comments "/*/ x */").map Comment.toDeparse = [{ text := "/*/" }] := by
    decide +kernel
  exact ⟨⟨t, hfound ▸ ht⟩, by decide +kernel⟩

end Toy
end PgBinding
