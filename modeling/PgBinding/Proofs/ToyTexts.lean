import Mathlib
import PgBinding.Proofs.InputForms
import PgBinding.Proofs.TextDecoding
/-!
# The toy engine's texts hold no NUL

The toy engine hands every text it returns to its caller as a NUL-terminated string, and it
panics on a text that holds a NUL of its own. Every text it builds from an input is made of the
input's own characters together with blanks, digits and punctuation: the normalized input and its
lower-case form, the comments found in it, its JSON parse tree and the hex digits of its
fingerprint. An input without a NUL therefore gives texts without one
(`Toy.nul_not_mem_normalize`, `Toy.nul_not_mem_comment_text`, `Toy.nul_not_mem_jsonTree`), and
in UTF-8 a NUL octet is exactly a NUL character (`Utf8.zero_mem_encode_iff`).
-/

namespace PgBinding

/-! ## Characters kept from the input -/

namespace Text

/-- A word holds only characters of the word begun and of the input. -/
theorem mem_of_mem_wordsFrom {cur cs w : List Char} {c : Char} (hw : w ∈ wordsFrom cur cs)
    (hc : c ∈ w) : c ∈ cur ∨ c ∈ cs := by
  induction cs generalizing cur with
  | nil =>
    simp only [wordsFrom] at hw
    split_ifs at hw
    · simp at hw
    · rw [List.mem_singleton.1 hw, List.mem_reverse] at hc
      exact .inl hc
  | cons x rest ih =>
    simp only [wordsFrom] at hw
    split_ifs at hw with hblank hempty
    · rcases ih hw with h | h
      · simp at h
      · exact .inr (List.mem_cons_of_mem _ h)
    · rcases List.mem_cons.1 hw with rfl | hw
      · exact .inl (List.mem_reverse.1 hc)
      · rcases ih hw with h | h
        · simp at h
        · exact .inr (List.mem_cons_of_mem _ h)
    · rcases ih hw with h | h
      · rcases List.mem_cons.1 h with rfl | h
        · exact .inr List.mem_cons_self
        · exact .inl h
      · exact .inr (List.mem_cons_of_mem _ h)

theorem mem_of_mem_wordsOf {cs w : List Char} {c : Char} (hw : w ∈ wordsOf cs) (hc : c ∈ w) :
    c ∈ cs := by
  rcases mem_of_mem_wordsFrom hw hc with h | h
  · simp at h
  · exact h

/-- A character of lists joined by a separator is one of the separator's or of a list's. -/
theorem mem_of_mem_intercalate {α : Type} {sep : List α} {xs : List (List α)} {a : α}
    (h : a ∈ sep.intercalate xs) : a ∈ sep ∨ ∃ x ∈ xs, a ∈ x := by
  induction xs with
  | nil => simp [List.intercalate_nil] at h
  | cons x rest ih =>
    cases rest with
    | nil =>
      rw [List.intercalate_singleton] at h
      exact .inr ⟨x, List.mem_singleton_self x, h⟩
    | cons y rest =>
      rw [List.intercalate_cons_cons, List.mem_append, List.mem_append] at h
      rcases h with (h | h) | h
      · exact .inr ⟨x, List.mem_cons_self, h⟩
      · exact .inl h
      · rcases ih h with h | ⟨z, hz, h⟩
        · exact .inl h
        · exact .inr ⟨z, List.mem_cons_of_mem _ hz, h⟩

/-- Lower-casing one character never gives NUL: every run of the mapping lands on valid,
non-zero code points. -/
theorem lowerChar_ne_nul {c : Char} (hc : c ≠ '\x00') : lowerChar c ≠ '\x00' := by
  have hruns : lowerRuns.all (fun r => 0 < r.first + r.shift &&
      (r.last + r.shift < 0xD800 || (0xDFFF < r.first + r.shift && r.last + r.shift < 0x110000)))
      = true := by decide +kernel
  intro h
  unfold lowerChar at h
  dsimp only at h
  split at h
  · next r hfind =>
    have hr := List.all_eq_true.1 hruns r (List.mem_of_find?_eq_some hfind)
    have hin := List.find?_some hfind
    simp only [Bool.and_eq_true, decide_eq_true_eq, Bool.or_eq_true] at hr hin
    obtain ⟨⟨hlo, hhi⟩, -⟩ := hin
    obtain ⟨hpos, hvalid⟩ := hr
    -- the run maps the code point to a valid one above zero
    have hval : ((c.toNat : Int) + r.shift).toNat.isValidChar := by
      unfold Nat.isValidChar
      omega
    have := congrArg (fun c => c.val.toNat) h
    rw [Utf8.toNat_val_ofNat _ hval] at this
    simp at this
    omega
  · exact hc h

/-- Lower-casing adds no NUL. -/
theorem nul_not_mem_lowerFrom (before : List Char) {cs : List Char} (h : '\x00' ∉ cs) :
    '\x00' ∉ lowerFrom before cs := by
  induction cs generalizing before with
  | nil => simp [lowerFrom]
  | cons c rest ih =>
    have hc : c ≠ '\x00' := fun e => h (e ▸ List.mem_cons_self)
    simp only [lowerFrom, List.mem_append, not_or]
    refine ⟨?_, ih _ fun e => h (List.mem_cons_of_mem _ e)⟩
    split_ifs
    · simp only [lowerSigma, List.mem_singleton]
      split_ifs <;> decide
    · decide
    · simpa using (lowerChar_ne_nul hc).symm

theorem nul_not_mem_toLower {s : String} (h : '\x00' ∉ s.toList) : '\x00' ∉ (toLower s).toList := by
  rw [toLower, String.toList_ofList]
  exact nul_not_mem_lowerFrom [] h

end Text

/-! ## Digits and JSON text -/

/-- No digit of any base is NUL. -/
theorem digitChar_ne_nul (d : Nat) : Nat.digitChar d ≠ '\x00' := by
  rcases Nat.lt_or_ge d 16 with h | h
  · interval_cases d <;> decide
  · rw [Nat.digitChar_eq_star.2 h]
    decide

theorem nul_not_mem_toDigitsCore {b fuel n : Nat} {ds : List Char} (h : '\x00' ∉ ds) :
    '\x00' ∉ Nat.toDigitsCore b fuel n ds := by
  induction fuel generalizing n ds with
  | zero => exact h
  | succ fuel ih =>
    have hd : '\x00' ∉ Nat.digitChar (n % b) :: ds := by
      simp only [List.mem_cons, not_or]
      exact ⟨(digitChar_ne_nul _).symm, h⟩
    simp only [Nat.toDigitsCore]
    split
    · exact hd
    · exact ih hd

theorem nul_not_mem_toDigits (b n : Nat) : '\x00' ∉ Nat.toDigits b n :=
  nul_not_mem_toDigitsCore List.not_mem_nil

theorem nul_not_mem_repr (n : Nat) : '\x00' ∉ n.repr.toList := by
  rw [Nat.toList_repr]
  exact nul_not_mem_toDigits 10 n

namespace Json

/-- An entry of a list, or the default, is no NUL when neither is. -/
theorem getD_ne_nul {l : List Char} {d : Char} {i : Nat} (hl : '\x00' ∉ l) (hd : d ≠ '\x00') :
    l.getD i d ≠ '\x00' := by
  rw [List.getD_eq_getElem?_getD]
  cases h : l[i]? with
  | none => exact hd
  | some y => exact fun e => hl (e ▸ List.mem_of_getElem? h)

/-- A string escapes NUL, as every control character, into printable characters. -/
theorem nul_not_mem_escapeChar (c : Char) : '\x00' ∉ escapeChar c := by
  unfold escapeChar
  have hhex : '\x00' ∉ "0123456789abcdef".toList := by decide +kernel
  split_ifs with h₁ h₂ h₃ h₄ h₅ h₆ h₇ h₈
  · simp
  · simp
  · simp
  · simp
  · simp
  · simp
  · simp
  · simp only [List.mem_cons, List.not_mem_nil, or_false, not_or]
    exact ⟨by decide, by decide, by decide, by decide, (getD_ne_nul hhex (by decide)).symm,
      (getD_ne_nul hhex (by decide)).symm⟩
  · simp only [List.mem_singleton]
    rintro rfl
    exact h₈ (by decide)

theorem nul_not_mem_quote (s : String) : '\x00' ∉ (quote s).toList := by
  simp only [quote, String.toList_ofList, List.mem_cons, List.mem_append, List.mem_flatMap,
    not_or, not_exists, not_and]
  exact ⟨by decide, fun c _ => nul_not_mem_escapeChar c, by decide⟩

/-- Written numbers are digits, signs, points and exponent marks. -/
theorem nul_not_mem_number_text (n : Number) : '\x00' ∉ n.text.toList := by
  cases n with
  | nat n => exact nul_not_mem_repr _
  | neg n =>
    simp only [Number.text, Int.toString_eq_repr, Int.repr_eq_if]
    split_ifs
    · exact nul_not_mem_repr _
    · simp only [String.toList_append, List.mem_append, not_or]
      exact ⟨by decide, nul_not_mem_repr _⟩
  | float bits =>
    have hds : ∀ n, '\x00' ∉ (Float64.digitString n).toList := fun n => by
      rw [Float64.digitString, String.toList_ofList]
      exact nul_not_mem_toDigits 10 n
    have hsign : ∀ b : Bool, '\x00' ∉ (if b = true then "-" else "").toList := by decide
    simp only [Number.text, Float64.toJsonText]
    split
    · simp only [String.toList_append, List.mem_append, not_or]
      exact ⟨hsign _, by decide⟩
    · rename_i x _
      obtain ⟨d, p⟩ := Float64.shortest x
      have hd := hds d
      have hexp := hds
      generalize Float64.digitString d = ds at hd ⊢
      simp only [String.toList_append, List.mem_append, not_or]
      refine ⟨hsign _, ?_⟩
      split_ifs
      · simp [hd, List.mem_replicate]
      · simp only [String.toList_append, String.toList_ofList, List.mem_append, not_or]
        exact ⟨⟨fun h => hd (List.mem_of_mem_take h), by decide⟩,
          fun h => hd (List.mem_of_mem_drop h)⟩
      · simp [hd, List.mem_replicate]
      all_goals
        simp only [String.toList_append, List.mem_append, not_or]
        refine ⟨⟨?_, by decide⟩, by decide, hexp _⟩
        split <;> simp_all

mutual

/-- Compact JSON text never holds a NUL: a string escapes it, and nothing else writes one. -/
theorem nul_not_mem_compact : (v : Value) → '\x00' ∉ v.compact.toList
  | .null => by decide +kernel
  | .bool true => by decide +kernel
  | .bool false => by decide +kernel
  | .num n => nul_not_mem_number_text n
  | .str s => nul_not_mem_quote s
  | .arr items => by
    rw [Value.compact]
    simp only [String.toList_append, String.toList_intercalate, List.mem_append, not_or]
    refine ⟨⟨by decide +kernel, fun h => ?_⟩, by decide +kernel⟩
    rcases Text.mem_of_mem_intercalate h with h | ⟨x, hx, h⟩
    · exact absurd h (by decide +kernel)
    · obtain ⟨t, ht, rfl⟩ := List.mem_map.1 hx
      exact nul_not_mem_compactItems items t ht h
  | .obj members => by
    rw [Value.compact]
    simp only [String.toList_append, String.toList_intercalate, List.mem_append, not_or]
    refine ⟨⟨by decide +kernel, fun h => ?_⟩, by decide +kernel⟩
    rcases Text.mem_of_mem_intercalate h with h | ⟨x, hx, h⟩
    · exact absurd h (by decide +kernel)
    · obtain ⟨t, ht, rfl⟩ := List.mem_map.1 hx
      exact nul_not_mem_compactMembers members t ht h

theorem nul_not_mem_compactItems : (vs : List Value) → ∀ t ∈ compactItems vs, '\x00' ∉ t.toList
  | [], t, ht => by simp [compactItems] at ht
  | v :: rest, t, ht => by
    rw [compactItems, List.mem_cons] at ht
    rcases ht with rfl | ht
    · exact nul_not_mem_compact v
    · exact nul_not_mem_compactItems rest t ht

theorem nul_not_mem_compactMembers :
    (ms : List (String × Value)) → ∀ t ∈ compactMembers ms, '\x00' ∉ t.toList
  | [], t, ht => by simp [compactMembers] at ht
  | (k, v) :: rest, t, ht => by
    rw [compactMembers, List.mem_cons] at ht
    rcases ht with rfl | ht
    · simp only [String.toList_append, List.mem_append, not_or]
      exact ⟨⟨nul_not_mem_quote k, by decide +kernel⟩, nul_not_mem_compact v⟩
    · exact nul_not_mem_compactMembers rest t ht

end

end Json

namespace Toy

/-- Dropping comments keeps characters of the input and adds blanks. -/
theorem mem_of_mem_stripFrom {m : StripMode} {cs : List Char} {c : Char}
    (h : c ∈ stripFrom m cs) : c ∈ cs ∨ c = ' ' := by
  fun_induction stripFrom m cs <;> simp_all <;> grind

/-- The normalized input holds characters of the input and blanks. -/
theorem mem_of_mem_normalize {sql : String} {c : Char} (h : c ∈ (normalize sql).toList) :
    c ∈ sql.toList ∨ c = ' ' := by
  rw [normalize, String.toList_intercalate, List.map_map] at h
  rcases Text.mem_of_mem_intercalate h with h | ⟨w, hw, hc⟩
  · exact .inr (by simpa using h)
  · obtain ⟨w', hw', rfl⟩ := List.mem_map.1 hw
    rw [Function.comp_apply, String.toList_ofList] at hc
    exact mem_of_mem_stripFrom (Text.mem_of_mem_wordsOf hw' hc)

/-- The characters a comment finder has read into the comment it is in. -/
def FindMode.text : FindMode → List Char
  | .code => []
  | .block _ _ t _ => t
  | .line _ _ t => t

/-- A comment holds characters of the input, of the comment begun, and of its delimiters. -/
theorem mem_of_mem_commentsFrom {m : FindMode} {pos nl : Nat} {cs : List Char} {cm : Comment}
    {x : Char} (hcm : cm ∈ commentsFrom m pos nl cs) (hx : x ∈ cm.text.toList) :
    x ∈ cs ∨ x ∈ m.text ∨ x = '/' ∨ x = '*' ∨ x = '-' := by
  fun_induction commentsFrom m pos nl cs <;> simp_all [FindMode.text] <;> grind [String.toList_append, String.toList_ofList]

theorem nul_not_mem_normalize {sql : String} (h : '\x00' ∉ sql.toList) :
    '\x00' ∉ (normalize sql).toList := by
  intro hn
  rcases mem_of_mem_normalize hn with hn | hn
  · exact h hn
  · exact absurd hn (by decide)

/-- The comments of an input without NUL hold none. -/
theorem nul_not_mem_comment_text {sql : String} (h : '\x00' ∉ sql.toList) {c : Comment}
    (hc : c ∈ comments sql) : '\x00' ∉ c.text.toList := by
  intro hx
  rcases mem_of_mem_commentsFrom hc hx with hx | hx | hx | hx | hx
  · exact h hx
  · simp [FindMode.text] at hx
  all_goals exact absurd hx (by decide)

theorem nul_not_mem_jsonTree (sql : String) : '\x00' ∉ (jsonTree sql).toList :=
  Json.nul_not_mem_compact _

theorem nul_not_mem_fixed (width n : Nat) : '\x00' ∉ (Hex.fixed width n).toList := by
  simp only [Hex.fixed, String.toList_ofList, List.mem_append, List.mem_replicate, not_or]
  exact ⟨fun h => absurd h.2 (by decide), nul_not_mem_toDigits 16 n⟩

end Toy

end PgBinding
