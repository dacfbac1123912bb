import Mathlib
import PgBinding.Proofs.ToyRoundTrip
/-!
# Tokens of the toy scanner

The toy scanner reads its input once, carrying the word it is in. `lexemes` states what it reads
without that state: each maximal run of word characters (alphanumeric or `_`), and every other
character that is not blank on its own, with its byte offset. The tokens the scanner answers are
those lexemes (`tokens_eq`).

`IsLexeme` says when a piece of an input is a lexeme: a run of word characters that the text on
neither side continues, or one character that is neither blank nor a word character. The
lexemes read from an input are exactly its pieces that are lexemes (`mem_lexemes` and
`mem_lexemes_of_isLexeme`), in order and apart (`pairwise_lexemes`), and every character that is
not blank lies in one of them (`lexemes_cover`).

`scanned_tokens_tokenize` carries this to what scanning through the default engine answers: the
tokens, read back from the engine's payload, tokenize the text (`Tokenizes`).
-/

namespace PgBinding
namespace Toy

open Text

/-! ## Word characters are not blank -/

/-- The blank characters, one by one. -/
def blankChars : List Char :=
  (blankRanges.flatMap fun r => List.range' r.1 (r.2 + 1 - r.1)).map Char.ofNat

theorem mem_blankChars {c : Char} (h : isBlank c = true) : c ∈ blankChars := by
  obtain ⟨⟨lo, hi⟩, hr, hin⟩ := List.any_eq_true.1 h
  simp only [Bool.and_eq_true, decide_eq_true_eq] at hin
  refine List.mem_map.2 ⟨c.toNat, List.mem_flatMap.2 ⟨(lo, hi), hr, ?_⟩, Char.ofNat_toNat c⟩
  exact List.mem_range'_1.2 ⟨hin.1, by omega⟩

-- a `List.all` the kernel evaluates directly; a bounded `∀` goes through decidability instances
-- it unfolds far deeper
theorem isWordChar_blankChars : blankChars.all (fun c => !isWordChar c) = true := by
  decide +kernel

theorem isWordChar_of_isBlank {c : Char} (h : isBlank c = true) : isWordChar c = false := by
  have hall := List.all_eq_true.1 isWordChar_blankChars c (mem_blankChars h)
  simpa using hall

theorem isBlank_of_isWordChar {c : Char} (h : isWordChar c = true) : isBlank c = false := by
  cases hb : isBlank c
  · rfl
  · rw [isWordChar_of_isBlank hb] at h
    exact absurd h Bool.false_ne_true

/-! ## Lexemes -/

/-- `w` is a run of word characters between `pre` and `post` that neither of them continues. -/
def IsWordRun (pre w post : List Char) : Prop :=
  w ≠ [] ∧ (∀ c ∈ w, isWordChar c = true) ∧ (∀ c ∈ pre.getLast?, isWordChar c = false) ∧
    ∀ c ∈ post.head?, isWordChar c = false

/-- `w` is one character that is neither blank nor a word character. -/
def IsSymbol (w : List Char) : Prop := ∃ c, w = [c] ∧ isBlank c = false ∧ isWordChar c = false

/-- `w`, between `pre` and `post`, is a lexeme of the toy grammar. -/
def IsLexeme (pre w post : List Char) : Prop := IsWordRun pre w post ∨ IsSymbol w

/-- The lexemes of `cs` from byte offset `pos`, each with its offset: the maximal runs of word
characters, and every other character that is not blank. -/
def lexemes (pos : Nat) : List Char → List (Nat × List Char)
  | [] => []
  | c :: rest =>
    if isWordChar c then
      (pos, c :: rest.takeWhile isWordChar) ::
        lexemes (pos + byteLength (c :: rest.takeWhile isWordChar)) (rest.dropWhile isWordChar)
    else if isBlank c then lexemes (pos + c.utf8Size) rest
    else (pos, [c]) :: lexemes (pos + c.utf8Size) rest
termination_by cs => cs.length
decreasing_by
  · have := (List.dropWhile_suffix isWordChar (l := rest)).length_le
    simp only [List.length_cons]
    omega
  · simp only [List.length_cons]
    omega
  · simp only [List.length_cons]
    omega

/-- The scanner's tokens are the lexemes of its input. The scanner in a word begun at byte `s`,
its characters so far `w` reversed, ends the word with the word characters that follow and then
reads the lexemes after them. -/
theorem tokensFrom_eq (pos : Nat) (cs : List Char) :
    tokensFrom pos none cs = (lexemes pos cs).map (fun l => Token.ofChars l.1 l.2) ∧
      ∀ s w, tokensFrom pos (some (s, w)) cs =
        Token.ofChars s (w.reverse ++ cs.takeWhile isWordChar) ::
          (lexemes (pos + byteLength (cs.takeWhile isWordChar)) (cs.dropWhile isWordChar)).map
            (fun l => Token.ofChars l.1 l.2) := by
  induction cs generalizing pos with
  | nil => exact ⟨by simp [tokensFrom, lexemes], fun s w => by simp [tokensFrom, lexemes]⟩
  | cons c rest ih =>
    by_cases hc : isWordChar c = true
    · -- a word character starts or continues the word
      have hsize : pos + c.utf8Size + byteLength (rest.takeWhile isWordChar) =
          pos + byteLength (c :: rest.takeWhile isWordChar) := by
        rw [byteLength_cons, Nat.add_assoc]
      refine ⟨?_, fun s w => ?_⟩
      · rw [tokensFrom, if_pos hc, (ih _).2, lexemes, if_pos hc, hsize]
        rfl
      · rw [tokensFrom, if_pos hc, (ih _).2, List.takeWhile_cons_of_pos hc,
          List.dropWhile_cons_of_pos hc, ← hsize, List.reverse_cons, List.append_assoc]
        rfl
    · -- any other character ends the word
      have hnone : tokensFrom pos none (c :: rest) =
          (lexemes pos (c :: rest)).map (fun l => Token.ofChars l.1 l.2) := by
        rw [tokensFrom, if_neg hc, (ih _).1, lexemes, if_neg hc]
        by_cases hb : isBlank c = true
        · simp [hb]
        · simp [hb]
      refine ⟨hnone, fun s w => ?_⟩
      rw [List.takeWhile_cons_of_neg hc, List.dropWhile_cons_of_neg hc, byteLength_nil,
        Nat.add_zero, List.append_nil, ← hnone, tokensFrom, if_neg hc]
      by_cases hb : isBlank c = true
      · simp [hb, tokensFrom, if_neg hc]
      · simp [hb, tokensFrom, if_neg hc]

theorem tokens_eq (sql : String) :
    tokens sql = (lexemes 0 sql.toList).map (fun l => Token.ofChars l.1 l.2) :=
  (tokensFrom_eq 0 sql.toList).1

example : lexemes 0 "select a_1,b".toList =
    [(0, "select".toList), (7, "a_1".toList), (10, [',']), (11, ['b'])] := by
  decide +kernel

/-! ## Facts of lexemes -/

section Lexeme

variable {pre w post : List Char}

theorem IsLexeme.ne_nil (h : IsLexeme pre w post) : w ≠ [] := by
  rcases h with hrun | ⟨c, rfl, -, -⟩
  · exact hrun.1
  · exact List.cons_ne_nil c []

theorem IsLexeme.not_blank (h : IsLexeme pre w post) : ∀ c ∈ w, isBlank c = false := by
  rcases h with hrun | ⟨c, rfl, hb, -⟩
  · exact fun c hc => isBlank_of_isWordChar (hrun.2.1 c hc)
  · intro d hd
    rw [List.mem_singleton.1 hd]
    exact hb

/-- A lexeme that begins with a word character is a run of them. -/
theorem IsLexeme.wordRun (h : IsLexeme pre w post) {c : Char} (hc : w.head? = some c)
    (hw : isWordChar c = true) : IsWordRun pre w post := by
  rcases h with hrun | ⟨d, rfl, -, hd⟩
  · exact hrun
  · rw [List.head?_cons, Option.some.injEq] at hc
    rw [← hc, hd] at hw
    exact absurd hw Bool.false_ne_true

/-- A lexeme that begins with another character is that character alone. -/
theorem IsLexeme.symbol (h : IsLexeme pre w post) {c : Char} (hc : w.head? = some c)
    (hw : isWordChar c = false) : w = [c] := by
  rcases h with hrun | ⟨d, rfl, -, -⟩
  · have hword := hrun.2.1 c (List.mem_of_mem_head? hc)
    rw [hw] at hword
    exact absurd hword Bool.false_ne_true
  · rw [List.head?_cons, Option.some.injEq] at hc
    rw [hc]

/-- Text put before a lexeme keeps it one, unless it continues a run of word characters. -/
theorem IsLexeme.append_left {a : List Char} (h : IsLexeme pre w post)
    (ha : pre = [] → IsWordRun pre w post → ∀ c ∈ a.getLast?, isWordChar c = false) :
    IsLexeme (a ++ pre) w post := by
  rcases h with hrun | hsym
  · refine .inl ⟨hrun.1, hrun.2.1, ?_, hrun.2.2.2⟩
    by_cases hpre : pre = []
    · subst hpre
      rw [List.append_nil]
      exact ha rfl hrun
    · rw [List.getLast?_append_of_ne_nil _ hpre]
      exact hrun.2.2.1
  · exact .inr hsym

theorem IsLexeme.of_append_left {a : List Char} (h : IsLexeme (a ++ pre) w post) :
    IsLexeme pre w post := by
  rcases h with hrun | hsym
  · refine .inl ⟨hrun.1, hrun.2.1, fun c hc => hrun.2.2.1 c ?_, hrun.2.2.2⟩
    have hpre : pre ≠ [] := by
      rintro rfl
      exact absurd hc (by simp)
    rwa [List.getLast?_append_of_ne_nil _ hpre]
  · exact .inr hsym

/-- A run of word characters that the text after it does not continue is the longest one there. -/
theorem IsWordRun.takeWhile (h : IsWordRun pre w post) :
    (w ++ post).takeWhile isWordChar = w ∧ (w ++ post).dropWhile isWordChar = post := by
  have hpost : post.takeWhile isWordChar = [] ∧ post.dropWhile isWordChar = post := by
    cases post with
    | nil => exact ⟨rfl, rfl⟩
    | cons d ds =>
      have hd : ¬isWordChar d = true := by simp [h.2.2.2 d rfl]
      exact ⟨List.takeWhile_cons_of_neg hd, List.dropWhile_cons_of_neg hd⟩
  rw [List.takeWhile_append_of_pos h.2.1, List.dropWhile_append_of_pos h.2.1, hpost.1, hpost.2,
    List.append_nil]
  exact ⟨rfl, rfl⟩

end Lexeme

/-- The word characters at the front of a text that begins with one are a run of them. -/
theorem isWordRun_front {c : Char} (hc : isWordChar c = true) (rest : List Char) :
    IsWordRun [] (c :: rest.takeWhile isWordChar) (rest.dropWhile isWordChar) := by
  refine ⟨List.cons_ne_nil _ _, fun d hd => ?_, by simp, fun d hd => ?_⟩
  · rcases List.mem_cons.1 hd with rfl | hd
    · exact hc
    · exact List.mem_takeWhile_imp hd
  · have hnot := List.head?_dropWhile_not isWordChar rest
    rw [Option.mem_def.1 hd] at hnot
    exact hnot

/-! ## What is read -/

/-- Every lexeme read from `cs` is cut out of it at its byte offset. -/
theorem mem_lexemes (pos : Nat) (cs : List Char) :
    ∀ l ∈ lexemes pos cs, ∃ pre post, cs = pre ++ l.2 ++ post ∧ l.1 = pos + byteLength pre ∧
      IsLexeme pre l.2 post := by
  fun_induction lexemes pos cs with
  | case1 pos => exact fun l hl => absurd hl List.not_mem_nil
  | case2 pos c rest hc ih =>
    rintro l (_ | ⟨_, hl⟩)
    · exact ⟨[], rest.dropWhile isWordChar, by simp, by simp, .inl (isWordRun_front hc rest)⟩
    · obtain ⟨pre, post, hcs, hpos, hlex⟩ := ih l hl
      refine ⟨(c :: rest.takeWhile isWordChar) ++ pre, post, ?_, ?_,
        hlex.append_left fun hpre hrun => ?_⟩
      · rw [List.append_assoc, List.append_assoc, ← List.append_assoc pre, ← hcs]
        simp
      · rw [hpos, byteLength_append, Nat.add_assoc]
      · -- no run of word characters follows the front one
        subst hpre
        obtain ⟨d, ds, hd⟩ := List.exists_cons_of_ne_nil hrun.1
        have hnot := List.head?_dropWhile_not isWordChar rest
        rw [hcs, List.nil_append, hd, List.cons_append, List.head?_cons] at hnot
        exact absurd (hrun.2.1 d (hd ▸ List.mem_cons_self)) (by rw [hnot]; decide)
  | case3 pos c rest hc hb ih =>
    intro l hl
    obtain ⟨pre, post, hcs, hpos, hlex⟩ := ih l hl
    refine ⟨c :: pre, post, by rw [hcs]; rfl, by rw [hpos, byteLength_cons, Nat.add_assoc],
      hlex.append_left (a := [c]) fun _ _ => ?_⟩
    simpa using isWordChar_of_isBlank hb
  | case4 pos c rest hc hb ih =>
    rintro l (_ | ⟨_, hl⟩)
    · exact ⟨[], rest, rfl, by simp, .inr ⟨c, rfl, by simpa using hb, by simpa using hc⟩⟩
    · obtain ⟨pre, post, hcs, hpos, hlex⟩ := ih l hl
      refine ⟨c :: pre, post, by rw [hcs]; rfl, by rw [hpos, byteLength_cons, Nat.add_assoc],
        hlex.append_left (a := [c]) fun _ _ => ?_⟩
      simpa using hc

theorem le_of_mem_lexemes {pos : Nat} {cs : List Char} {l : Nat × List Char}
    (hl : l ∈ lexemes pos cs) : pos ≤ l.1 := by
  obtain ⟨pre, -, -, hpos, -⟩ := mem_lexemes pos cs l hl
  omega

/-- The lexemes come in order, each ending before the next begins. -/
theorem pairwise_lexemes (pos : Nat) (cs : List Char) :
    (lexemes pos cs).Pairwise fun a b => a.1 + byteLength a.2 ≤ b.1 := by
  fun_induction lexemes pos cs with
  | case1 => exact .nil
  | case2 pos c rest hc ih => exact .cons (fun b hb => le_of_mem_lexemes hb) ih
  | case3 => assumption
  | case4 pos c rest hc hb ih =>
    refine .cons (fun b hb => ?_) ih
    simpa using le_of_mem_lexemes hb

theorem length_lexemes_le (pos : Nat) (cs : List Char) : (lexemes pos cs).length ≤ cs.length := by
  fun_induction lexemes pos cs with
  | case1 => exact le_refl 0
  | case2 pos c rest hc ih =>
    have := (List.dropWhile_suffix isWordChar (l := rest)).length_le
    simp only [List.length_cons]
    omega
  | case3 pos c rest hc hb ih =>
    simp only [List.length_cons]
    omega
  | case4 pos c rest hc hb ih =>
    simp only [List.length_cons]
    omega

/-- Every character of `cs` that is not blank lies in a lexeme read from `cs`. -/
theorem lexemes_cover (pos : Nat) (cs : List Char) :
    ∀ pre c post, cs = pre ++ c :: post → isBlank c = false →
      ∃ l ∈ lexemes pos cs, l.1 ≤ pos + byteLength pre ∧ pos + byteLength pre < l.1 + byteLength l.2 := by
  fun_induction lexemes pos cs with
  | case1 pos =>
    intro pre c post hcs
    exact absurd hcs.symm (by simp)
  | case2 pos c₀ rest hc ih =>
    intro pre c post hcs hb
    have hsplit : (c₀ :: rest.takeWhile isWordChar) ++ rest.dropWhile isWordChar =
        pre ++ c :: post := by
      rw [← hcs, List.cons_append, List.takeWhile_append_dropWhile]
    -- the character lies after the front run of word characters, or in it
    rcases List.append_eq_append_iff.1 hsplit with ⟨a, hpre, hrest⟩ | ⟨a, hrun, hpost⟩
    · obtain ⟨l, hl, h₁, h₂⟩ := ih a c post hrest hb
      refine ⟨l, List.mem_cons_of_mem _ hl, ?_, ?_⟩ <;> rw [hpre, byteLength_append] <;> omega
    · rcases a with _ | ⟨x, a⟩
      · rw [List.append_nil] at hrun
        obtain ⟨l, hl, h₁, h₂⟩ := ih [] c post (by simpa using hpost.symm) hb
        rw [byteLength_nil, Nat.add_zero] at h₁ h₂
        refine ⟨l, List.mem_cons_of_mem _ hl, ?_, ?_⟩ <;> rw [← hrun] <;> omega
      · refine ⟨_, List.mem_cons_self, Nat.le_add_right _ _, ?_⟩
        rw [hrun, byteLength_append, byteLength_cons]
        have := Char.utf8Size_pos x
        omega
  | case3 pos c₀ rest hc hb₀ ih =>
    rintro (_ | ⟨x, pre⟩) c post hcs hb
    · -- a blank is no such character
      rw [List.nil_append, List.cons.injEq] at hcs
      rw [hcs.1, hb] at hb₀
      exact absurd hb₀ Bool.false_ne_true
    · rw [List.cons_append, List.cons.injEq] at hcs
      obtain ⟨rfl, hrest⟩ := hcs
      obtain ⟨l, hl, h₁, h₂⟩ := ih pre c post hrest hb
      refine ⟨l, hl, ?_, ?_⟩ <;> rw [byteLength_cons] <;> omega
  | case4 pos c₀ rest hc hb₀ ih =>
    rintro (_ | ⟨x, pre⟩) c post hcs hb
    · refine ⟨_, List.mem_cons_self, by simp, ?_⟩
      have := Char.utf8Size_pos c₀
      simp only [byteLength_nil, byteLength_cons]
      omega
    · rw [List.cons_append, List.cons.injEq] at hcs
      obtain ⟨rfl, hrest⟩ := hcs
      obtain ⟨l, hl, h₁, h₂⟩ := ih pre c post hrest hb
      refine ⟨l, List.mem_cons_of_mem _ hl, ?_, ?_⟩ <;> rw [byteLength_cons] <;> omega

/-- Every piece of `cs` that is a lexeme is read from `cs`, at its byte offset. -/
theorem mem_lexemes_of_isLexeme (pos : Nat) (cs : List Char) :
    ∀ pre w post, cs = pre ++ w ++ post → IsLexeme pre w post →
      (pos + byteLength pre, w) ∈ lexemes pos cs := by
  fun_induction lexemes pos cs with
  | case1 pos =>
    intro pre w post hcs hlex
    exact absurd (List.append_eq_nil_iff.1 (List.append_eq_nil_iff.1 hcs.symm).1).2 hlex.ne_nil
  | case2 pos c rest hc ih =>
    intro pre w post hcs hlex
    have hsplit : (c :: rest.takeWhile isWordChar) ++ rest.dropWhile isWordChar =
        pre ++ (w ++ post) := by
      rw [← List.append_assoc, ← hcs, List.cons_append, List.takeWhile_append_dropWhile]
    -- the lexeme lies after the front run of word characters, or begins in it
    rcases List.append_eq_append_iff.1 hsplit with ⟨a, hpre, hrest⟩ | ⟨a, hrun, hpost⟩
    · have hin := ih a w post (by rw [hrest, List.append_assoc])
        (IsLexeme.of_append_left (hpre ▸ hlex))
      rw [hpre, byteLength_append, ← Nat.add_assoc]
      exact List.mem_cons_of_mem _ hin
    · rcases a with _ | ⟨x, a⟩
      · rw [List.append_nil] at hrun
        have hin := ih [] w post (by simpa using hpost.symm)
          (IsLexeme.of_append_left (a := pre) (by rwa [List.append_nil]))
        rw [byteLength_nil, Nat.add_zero] at hin
        rw [← hrun]
        exact List.mem_cons_of_mem _ hin
      · -- the lexeme begins with a word character of the front run
        have hw := hlex.ne_nil
        have hhead : w.head? = some x := by
          rw [← List.head?_append_of_ne_nil w hw, hpost]
          rfl
        have hx : isWordChar x = true := (isWordRun_front hc rest).2.1 x (by rw [hrun]; simp)
        have hwrun := hlex.wordRun hhead hx
        by_cases hpre : pre = []
        · -- at the front it is the whole run
          subst hpre
          have hfront := (isWordRun_front hc rest).takeWhile
          have hsame := hwrun.takeWhile
          rw [List.nil_append] at hsplit
          rw [← hsplit, hfront.1] at hsame
          rw [byteLength_nil, Nat.add_zero, hsame.1]
          exact List.mem_cons_self
        · -- elsewhere it would continue the word character before it
          obtain ⟨y, hy⟩ := Option.isSome_iff_exists.1 (List.getLast?_isSome.2 hpre)
          have hyw : isWordChar y = true := (isWordRun_front hc rest).2.1 y
            (by rw [hrun]; exact List.mem_append_left _ (List.mem_of_getLast? hy))
          rw [hwrun.2.2.1 y hy] at hyw
          exact absurd hyw Bool.false_ne_true
  | case3 pos c rest hc hb ih =>
    rintro (_ | ⟨x, pre⟩) w post hcs hlex
    · -- a lexeme does not begin with a blank
      obtain ⟨d, ds, hd⟩ := List.exists_cons_of_ne_nil hlex.ne_nil
      rw [hd, List.nil_append, List.cons_append, List.cons.injEq] at hcs
      have hblank := hlex.not_blank d (by rw [hd]; exact List.mem_cons_self)
      rw [← hcs.1, hb] at hblank
      exact absurd hblank (by decide)
    · rw [List.cons_append, List.cons_append, List.cons.injEq] at hcs
      obtain ⟨rfl, hrest⟩ := hcs
      have hin := ih pre w post hrest (IsLexeme.of_append_left (a := [c]) hlex)
      rwa [byteLength_cons, ← Nat.add_assoc]
  | case4 pos c rest hc hb ih =>
    rintro (_ | ⟨x, pre⟩) w post hcs hlex
    · -- at the front it is the character alone
      have hhead : w.head? = some c := by
        rw [← List.head?_append_of_ne_nil w hlex.ne_nil, ← List.nil_append (w ++ post),
          ← List.append_assoc, ← hcs]
        rfl
      rw [hlex.symbol hhead (by simpa using hc), byteLength_nil, Nat.add_zero]
      exact List.mem_cons_self
    · rw [List.cons_append, List.cons_append, List.cons.injEq] at hcs
      obtain ⟨rfl, hrest⟩ := hcs
      have hin := ih pre w post hrest (IsLexeme.of_append_left (a := [c]) hlex)
      rw [byteLength_cons, ← Nat.add_assoc]
      exact List.mem_cons_of_mem _ hin

/-! ## Scanning through the default engine -/

/-- The token the default engine answers for a lexeme at its offset. -/
def scanToken (l : Nat × List Char) : Scan.Token :=
  { start := Int32.ofNat l.1, stop := Int32.ofNat (l.1 + byteLength l.2)
    keywordKind := if reservedWords.contains (String.ofList (l.2.map Char.toLower)) then 4 else 0 }

theorem scanned_tokens (sql : String) :
    (scanned sql).tokens = (lexemes 0 sql.toList).map scanToken := by
  rw [scanned, tokens_eq, List.map_map]
  rfl

/-- A token is a reserved keyword exactly when its text in lower case is a reserved word. -/
theorem keywordKind_scanToken (l : Nat × List Char) :
    Scan.KeywordKind.ofInt32 (scanToken l).keywordKind =
      if String.ofList (l.2.map Char.toLower) ∈ ["select", "from", "where"] then .reserved
      else .none := by
  by_cases h : String.ofList (l.2.map Char.toLower) ∈ ["select", "from", "where"]
  · have hc : reservedWords.contains (String.ofList (l.2.map Char.toLower)) = true :=
      List.contains_iff_mem.2 h
    rw [scanToken, hc, if_pos rfl, if_pos h]
    rfl
  · have hc : reservedWords.contains (String.ofList (l.2.map Char.toLower)) = false :=
      Bool.eq_false_iff.2 fun hc => h (List.contains_iff_mem.1 hc)
    rw [scanToken, hc, if_neg Bool.false_ne_true, if_neg h]
    rfl

theorem length_frames_tokens_le (toks : List Scan.Token) :
    ((toks.map fun t => Wire.writeChunk 2 t.encode).flatten).length ≤ 100 * toks.length := by
  induction toks with
  | nil => exact Nat.zero_le _
  | cons t ts ih =>
    rw [List.map_cons, List.flatten_cons, List.length_append, List.length_cons, Wire.writeChunk]
    have := length_writeFramed_le 2 t.encode.length t.encode
    have := t.length_encode_le
    omega

/-- A scanner output is encoded in at most 100 bytes a token and 20 more. -/
theorem length_encode_scanned_le (r : Scan.Scanned) :
    r.encode.length ≤ 20 + 100 * r.tokens.length := by
  rw [Scan.Scanned.encode, List.length_append]
  have := Scan.length_writeInt32_le 1 r.version
  have := length_frames_tokens_le r.tokens
  omega

/-- The default engine scans a text without NUL into the toy scanner's output, when its encoding
has a signed 64-bit length. -/
theorem scan_default {sql : String} (hnul : '\x00' ∉ sql.toList)
    (hfit : (scanned sql).encode.length ≤ Error.int64Max) (s : State) :
    ∃ t, Parser.scan (engine {}) sql s = .ok (.ok (scanned sql)) t := by
  obtain ⟨t, hcall⟩ : ∃ t, (engine {}).scan (Utf8.encode sql)
      ((engine {}).note (Parser.dispatchRecord .scan) s) =
      .ok { payload := Payload.ofBytes (scanned sql).encode } t := by
    simp only [engine, bind, EStateM.bind, dispatch_run, input_run (Utf8.decode_encode sql),
      allocPayload_run, Bool.false_eq_true, if_false]
    exact ⟨_, rfl⟩
  have herr : (fun r : PayloadReply => r.error)
      { payload := Payload.ofBytes (scanned sql).encode } = none := rfl
  obtain ⟨t', ht'⟩ := Parser.run_of_answer (engine {}) .scan
    (fun r : PayloadReply => (do
      let bs ← Materialize.payloadBytes "scan result" r.payload
      (Scan.Scanned.decode bs).mapError (Error.decode "scan result") : Except Error Scan.Scanned))
    hcall herr
  have hread : (do
      let bs ← Materialize.payloadBytes "scan result" (Payload.ofBytes (scanned sql).encode)
      (Scan.Scanned.decode bs).mapError (Error.decode "scan result") :
        Except Error Scan.Scanned) = .ok (scanned sql) := by
    rw [payloadBytes_ofBytes _ hfit]
    show (Scan.Scanned.decode (scanned sql).encode).mapError (Error.decode "scan result") =
      .ok (scanned sql)
    rw [Scan.Scanned.decode_encode]
    rfl
  exact ⟨t', by rw [Parser.scan, ofText_of_no_nul hnul, ← hread]; exact ht'⟩

/-! ## Tokens that tokenize a text -/

/-- What the scanner's tokens `toks` over `sql` should be, offsets in bytes. They come in order
and apart. Each is cut out of the text at its offsets, a lexeme of it, and a reserved keyword
exactly when its text in ASCII lower case is `select`, `from` or `where`. Every lexeme of the text
is a token, and every character that is not blank lies in exactly one token. -/
structure Tokenizes (sql : String) (toks : List Scan.Token) : Prop where
  ordered : toks.Pairwise fun a b => a.stop.toInt ≤ b.start.toInt
  lexeme : ∀ tok ∈ toks, ∃ pre w post : String, sql = pre ++ w ++ post ∧
    tok.start.toInt = pre.utf8ByteSize ∧ tok.stop.toInt = pre.utf8ByteSize + w.utf8ByteSize ∧
    tok.text sql = some w ∧ w ≠ "" ∧ (∀ c ∈ w.toList, isBlank c = false) ∧
    IsLexeme pre.toList w.toList post.toList ∧
    Scan.KeywordKind.ofInt32 tok.keywordKind =
      if String.ofList (w.toList.map Char.toLower) ∈ ["select", "from", "where"] then .reserved
      else .none
  complete : ∀ pre w post : String, sql = pre ++ w ++ post →
    IsLexeme pre.toList w.toList post.toList →
    ∃ tok ∈ toks, tok.start.toInt = pre.utf8ByteSize ∧
      tok.stop.toInt = pre.utf8ByteSize + w.utf8ByteSize
  covers : ∀ (pre post : String) (c : Char), sql = pre ++ String.singleton c ++ post →
    isBlank c = false →
    ∃! tok, tok ∈ toks ∧ tok.start.toInt ≤ pre.utf8ByteSize ∧ (pre.utf8ByteSize : Int) < tok.stop.toInt

/-- Of tokens in order and apart, at most one covers a byte. -/
theorem eq_of_covers {toks : List Scan.Token}
    (h : toks.Pairwise fun a b => a.stop.toInt ≤ b.start.toInt) {a b : Scan.Token}
    (ha : a ∈ toks) (hb : b ∈ toks) {i : Int} (hia : a.start.toInt ≤ i ∧ i < a.stop.toInt)
    (hib : b.start.toInt ≤ i ∧ i < b.stop.toInt) : a = b := by
  induction toks with
  | nil => exact absurd ha List.not_mem_nil
  | cons x xs ih =>
    rw [List.pairwise_cons] at h
    rcases List.mem_cons.1 ha with hax | hax <;> rcases List.mem_cons.1 hb with hbx | hbx
    · rw [hax, hbx]
    · subst hax
      have := h.1 b hbx
      omega
    · subst hbx
      have := h.1 a hax
      omega
    · exact ih h.2 hax hbx

theorem ofList_pieces {sql : String} {pre w post : List Char} (h : sql.toList = pre ++ w ++ post) :
    sql = String.ofList pre ++ String.ofList w ++ String.ofList post := by
  rw [← String.ofList_toList (s := sql), h, String.ofList_append, String.ofList_append]

/-- A lexeme of a text shorter than `2 ^ 31` bytes is answered with its own offsets. -/
theorem scanToken_offsets {sql : String} (hlen : sql.utf8ByteSize < 2 ^ 31) {l : Nat × List Char}
    (hl : l ∈ lexemes 0 sql.toList) :
    (scanToken l).start.toInt = l.1 ∧ (scanToken l).stop.toInt = (l.1 + byteLength l.2 : Nat) := by
  obtain ⟨pre, post, hcs, hpos, -⟩ := mem_lexemes 0 sql.toList l hl
  have hend : l.1 + byteLength l.2 + byteLength post = sql.utf8ByteSize := by
    rw [← byteLength_toList, hcs, byteLength_append, byteLength_append, hpos, Nat.zero_add]
  exact ⟨Int32.toInt_ofNat_of_lt (by omega), Int32.toInt_ofNat_of_lt (by omega)⟩

/-- The tokens of the lexemes of a text shorter than `2 ^ 31` bytes tokenize it. -/
theorem tokenizes_lexemes {sql : String} (hlen : sql.utf8ByteSize < 2 ^ 31) :
    Tokenizes sql ((lexemes 0 sql.toList).map scanToken) := by
  have hordered : ((lexemes 0 sql.toList).map scanToken).Pairwise
      fun a b => a.stop.toInt ≤ b.start.toInt := by
    rw [List.pairwise_map]
    refine (pairwise_lexemes 0 sql.toList).imp_of_mem fun {a b} ha hb hab => ?_
    rw [(scanToken_offsets hlen ha).2, (scanToken_offsets hlen hb).1]
    exact_mod_cast hab
  refine ⟨hordered, ?_, ?_, ?_⟩
  · -- each token is a lexeme cut out at its offsets
    intro tok htok
    obtain ⟨l, hl, rfl⟩ := List.mem_map.1 htok
    obtain ⟨pre, post, hcs, hpos, hlex⟩ := mem_lexemes 0 sql.toList l hl
    obtain ⟨hstart, hstop⟩ := scanToken_offsets hlen hl
    rw [Nat.zero_add] at hpos
    have hpre : (String.ofList pre).utf8ByteSize = l.1 := by
      rw [← byteLength_eq_utf8ByteSize, hpos]
    have hw : (String.ofList l.2).utf8ByteSize = byteLength l.2 :=
      (byteLength_eq_utf8ByteSize _).symm
    refine ⟨String.ofList pre, String.ofList l.2, String.ofList post, ofList_pieces hcs,
      by rw [hstart, hpre], by rw [hstop, hpre, hw, Nat.cast_add], ?_, ?_, ?_, ?_, ?_⟩
    · rw [Scan.Token.text, hstart, hstop, if_neg (by omega), Int.toNat_natCast, Int.toNat_natCast]
      exact (Utf8.slice?_eq_some_iff sql l.1 (byteLength l.2) _).2
        ⟨_, _, _, ofList_pieces hcs, hpre, hw, rfl⟩
    · rw [ne_eq, String.ofList_eq_empty_iff]
      exact hlex.ne_nil
    · rw [String.toList_ofList]
      exact hlex.not_blank
    · rwa [String.toList_ofList, String.toList_ofList, String.toList_ofList]
    · rw [String.toList_ofList]
      exact keywordKind_scanToken l
  · -- each lexeme is a token
    intro pre w post hsql hlex
    have hcs : sql.toList = pre.toList ++ w.toList ++ post.toList := by
      rw [hsql, String.toList_append, String.toList_append]
    have hin := mem_lexemes_of_isLexeme 0 sql.toList _ _ _ hcs hlex
    obtain ⟨hstart, hstop⟩ := scanToken_offsets hlen hin
    refine ⟨_, List.mem_map_of_mem hin, ?_, ?_⟩
    · rw [hstart, Nat.zero_add, byteLength_toList]
    · rw [hstop, Nat.zero_add, byteLength_toList, byteLength_toList, Nat.cast_add]
  · -- each character that is not blank is in one token, and the tokens are apart
    intro pre post c hsql hb
    have hcs : sql.toList = pre.toList ++ c :: post.toList := by
      rw [hsql, String.toList_append, String.toList_append, String.toList_singleton,
        List.append_assoc, List.singleton_append]
    obtain ⟨l, hl, h₁, h₂⟩ := lexemes_cover 0 sql.toList _ _ _ hcs hb
    obtain ⟨hstart, hstop⟩ := scanToken_offsets hlen hl
    rw [Nat.zero_add, byteLength_toList] at h₁ h₂
    have hcover : (scanToken l).start.toInt ≤ pre.utf8ByteSize ∧
        (pre.utf8ByteSize : Int) < (scanToken l).stop.toInt := by
      rw [hstart, hstop]
      omega
    refine ⟨scanToken l, ⟨List.mem_map_of_mem hl, hcover⟩, fun tok ⟨htok, htok'⟩ => ?_⟩
    exact eq_of_covers hordered htok (List.mem_map_of_mem hl) htok' hcover

/-- Scanning a text without NUL and shorter than `2 ^ 31` bytes through the default engine answers
tokens that tokenize it. -/
theorem scanned_tokens_tokenize (sql : String) (hnul : '\x00' ∉ sql.toList)
    (hlen : sql.utf8ByteSize < 2 ^ 31) (s : State) :
    ∃ r t, Parser.scan (engine {}) sql s = .ok (.ok r) t ∧ Tokenizes sql r.tokens := by
  have hcount : (scanned sql).tokens.length ≤ sql.utf8ByteSize := by
    have hlexemes := length_lexemes_le 0 sql.toList
    have hchars := length_le_byteLength sql.toList
    rw [scanned_tokens, List.length_map]
    rw [byteLength_toList] at hchars
    omega
  have hfit : (scanned sql).encode.length ≤ Error.int64Max := by
    have := length_encode_scanned_le (scanned sql)
    unfold Error.int64Max
    omega
  obtain ⟨t, ht⟩ := scan_default hnul hfit s
  refine ⟨scanned sql, t, ht, ?_⟩
  rw [scanned_tokens]
  exact tokenizes_lexemes hlen

theorem select_from_tokenizes :
    '\x00' ∉ "SELECT a_1, b FROM t".toList ∧ "SELECT a_1, b FROM t".utf8ByteSize < 2 ^ 31 ∧
      ∃ r t, Parser.scan (engine {}) "SELECT a_1, b FROM t" {} = .ok (.ok r) t ∧
        Tokenizes "SELECT a_1, b FROM t" r.tokens :=
  ⟨by decide +kernel, by decide +kernel,
    scanned_tokens_tokenize _ (by decide +kernel) (by decide +kernel) {}⟩

end Toy
end PgBinding
