import Mathlib
import PgBinding.Proofs.InputForms
/-!
# Decoding inverts encoding

Strict decoding reads a character's octets by the class of its lead octet, with the narrower
second-octet ranges after `E0`, `ED`, `F0` and `F4`. Each class read back is the encoding of the
character it yields (`exists_encodeChar_prefix`), so whatever strict decoding accepts is the
encoding of what it returns, and nothing else is (`decode_eq_ok_iff`). Lossy decoding takes the
same steps wherever strict decoding succeeds, so it too reads every encoded text back.

An octet of encoded text starts a character exactly where a prefix of the text ends, so the
boundary test on bytes is the core notion of a valid position (`isBoundary_encode`), and the bytes
between two boundaries are the text between them (`slice?_eq_some_iff`).
-/
namespace PgBinding
namespace Utf8

/-! ## Reading one character -/

/-- The classes of a first octet: a character of its own, the lead of two, three or four octets
with the range its second octet must fall in, or no character at all. -/
theorem start_cases (b : UInt8) :
    (b.toNat < 0x80 ∧ start b = .ascii (Char.ofNat b.toNat)) ∨
    (0xC2 ≤ b.toNat ∧ b.toNat < 0xE0 ∧ start b = .lead ⟨b.toNat - 0xC0, 1, 0x80, 0xBF, 1⟩) ∨
    (0xE0 ≤ b.toNat ∧ b.toNat < 0xF0 ∧ ∃ lo hi : UInt8,
      start b = .lead ⟨b.toNat - 0xE0, 2, lo, hi, 1⟩ ∧ 0x80 ≤ lo.toNat ∧ hi.toNat ≤ 0xBF ∧
      (b.toNat = 0xE0 → 0xA0 ≤ lo.toNat) ∧ (b.toNat = 0xED → hi.toNat ≤ 0x9F)) ∨
    (0xF0 ≤ b.toNat ∧ b.toNat ≤ 0xF4 ∧ ∃ lo hi : UInt8,
      start b = .lead ⟨b.toNat - 0xF0, 3, lo, hi, 1⟩ ∧ 0x80 ≤ lo.toNat ∧ hi.toNat ≤ 0xBF ∧
      (b.toNat = 0xF0 → 0x90 ≤ lo.toNat) ∧ (b.toNat = 0xF4 → hi.toNat ≤ 0x8F)) ∨
    start b = .bad := by
  have hb := b.toNat_lt
  -- the classes in the order `start` tests them
  rcases (by omega : b.toNat < 0x80 ∨ (0x80 ≤ b.toNat ∧ b.toNat < 0xC2) ∨
      (0xC2 ≤ b.toNat ∧ b.toNat < 0xE0) ∨ b.toNat = 0xE0 ∨ b.toNat = 0xED ∨
      (0xE0 < b.toNat ∧ b.toNat < 0xF0 ∧ b.toNat ≠ 0xED) ∨ b.toNat = 0xF0 ∨
      (0xF0 < b.toNat ∧ b.toNat < 0xF4) ∨ b.toNat = 0xF4 ∨ 0xF4 < b.toNat) with
    h | h | h | h | h | h | h | h | h | h
  · exact .inl ⟨h, by simp (disch := omega) only [start, if_pos]⟩
  · exact .inr (.inr (.inr (.inr (by simp (disch := omega) only [start, if_pos, if_neg]))))
  · exact .inr (.inl ⟨h.1, h.2, by simp (disch := omega) only [start, if_pos, if_neg]⟩)
  · refine .inr (.inr (.inl ⟨by omega, by omega, 0xA0, 0xBF, ?_, by decide, by decide,
      fun _ => by decide, by omega⟩))
    simp (disch := omega) only [start, if_pos, if_neg]
    rw [h]
  · refine .inr (.inr (.inl ⟨by omega, by omega, 0x80, 0x9F, ?_, by decide, by decide,
      by omega, fun _ => by decide⟩))
    simp (disch := omega) only [start, if_pos, if_neg]
    rw [h]
  · refine .inr (.inr (.inl ⟨by omega, by omega, 0x80, 0xBF, ?_, by decide, by decide,
      by omega, by omega⟩))
    simp (disch := omega) only [start, if_pos, if_neg]
  · refine .inr (.inr (.inr (.inl ⟨by omega, by omega, 0x90, 0xBF, ?_, by decide, by decide,
      fun _ => by decide, by omega⟩)))
    simp (disch := omega) only [start, if_pos, if_neg]
    rw [h]
  · refine .inr (.inr (.inr (.inl ⟨by omega, by omega, 0x80, 0xBF, ?_, by decide, by decide,
      by omega, by omega⟩)))
    simp (disch := omega) only [start, if_pos, if_neg]
  · refine .inr (.inr (.inr (.inl ⟨by omega, by omega, 0x80, 0x8F, ?_, by decide, by decide,
      by omega, fun _ => by decide⟩)))
    simp (disch := omega) only [start, if_pos, if_neg]
    rw [h]
  · exact .inr (.inr (.inr (.inr (by simp (disch := omega) only [start, if_neg]))))

/-- The last owed octet, when decoding goes on, is within range and ends the character. -/
theorem strictGo_last {p : Pending} {bs : Bytes} {pos : Nat} {acc out : List Char}
    (hneed : p.need ≤ 1) (h : strictGo (some p) bs pos acc = .ok out) :
    ∃ b rest, bs = b :: rest ∧ p.lo ≤ b ∧ b ≤ p.hi ∧
      strictGo none rest (pos + 1) (Char.ofNat (p.value * 64 + (b.toNat - 0x80)) :: acc) =
        .ok out := by
  cases bs with
  | nil => simp [strictGo] at h
  | cons b rest =>
    simp only [strictGo, Pending.admits, Pending.feed, if_pos hneed, Bool.and_eq_true,
      decide_eq_true_eq] at h
    split at h
    · next hadm => exact ⟨b, rest, rfl, hadm.1, hadm.2, h⟩
    · cases h

/-- An owed octet that is not the last, when decoding goes on, is within range and leaves one
continuation octet fewer owed. -/
theorem strictGo_more {p : Pending} {bs : Bytes} {pos : Nat} {acc out : List Char}
    (hneed : 1 < p.need) (h : strictGo (some p) bs pos acc = .ok out) :
    ∃ b rest, bs = b :: rest ∧ p.lo ≤ b ∧ b ≤ p.hi ∧
      strictGo (some ⟨p.value * 64 + (b.toNat - 0x80), p.need - 1, 0x80, 0xBF, p.len + 1⟩)
        rest (pos + 1) acc = .ok out := by
  cases bs with
  | nil => simp [strictGo] at h
  | cons b rest =>
    simp only [strictGo, Pending.admits, Pending.feed, if_neg (Nat.not_le.2 hneed),
      Bool.and_eq_true, decide_eq_true_eq] at h
    split at h
    · next hadm => exact ⟨b, rest, rfl, hadm.1, hadm.2, h⟩
    · cases h

theorem toNat_val_ofNat (v : Nat) (h : v.isValidChar) : (Char.ofNat v).val.toNat = v := by
  simp [Char.ofNat, h, Char.ofNatAux]

theorem ofNat_eq_octet (b : UInt8) {x : Nat} (hx : x = b.toNat) : UInt8.ofNat x = b := by
  rw [hx, UInt8.ofNat_toNat]

/-! Each class of octets that decoding reads is the encoding of the character it yields. -/

theorem encodeChar_one {b : UInt8} (h₀ : b.toNat < 0x80) :
    String.utf8EncodeChar (Char.ofNat b.toNat) = [b] := by
  have hv := toNat_val_ofNat (b.toNat) (by unfold Nat.isValidChar; omega)
  unfold String.utf8EncodeChar
  rw [hv, if_pos (by omega), ofNat_eq_octet b rfl]

theorem encodeChar_two {b₀ b₁ : UInt8} (h₀ : 0xC2 ≤ b₀.toNat) (h₀' : b₀.toNat < 0xE0)
    (h₁ : 0x80 ≤ b₁.toNat) (h₁' : b₁.toNat ≤ 0xBF) :
    String.utf8EncodeChar (Char.ofNat ((b₀.toNat - 0xC0) * 64 + (b₁.toNat - 0x80))) = [b₀, b₁] := by
  have hv := toNat_val_ofNat ((b₀.toNat - 0xC0) * 64 + (b₁.toNat - 0x80))
    (by unfold Nat.isValidChar; omega)
  unfold String.utf8EncodeChar
  rw [hv, if_neg (by omega), if_pos (by omega), ofNat_eq_octet b₀ (by omega),
    ofNat_eq_octet b₁ (by omega)]

theorem encodeChar_three {b₀ b₁ b₂ : UInt8} (h₀ : 0xE0 ≤ b₀.toNat) (h₀' : b₀.toNat < 0xF0)
    (h₁ : 0x80 ≤ b₁.toNat) (h₁' : b₁.toNat ≤ 0xBF) (h₂ : 0x80 ≤ b₂.toNat) (h₂' : b₂.toNat ≤ 0xBF)
    (hE0 : b₀.toNat = 0xE0 → 0xA0 ≤ b₁.toNat) (hED : b₀.toNat = 0xED → b₁.toNat ≤ 0x9F) :
    String.utf8EncodeChar (Char.ofNat
      (((b₀.toNat - 0xE0) * 64 + (b₁.toNat - 0x80)) * 64 + (b₂.toNat - 0x80))) = [b₀, b₁, b₂] := by
  have hv := toNat_val_ofNat (((b₀.toNat - 0xE0) * 64 + (b₁.toNat - 0x80)) * 64 + (b₂.toNat - 0x80))
    (by unfold Nat.isValidChar; omega)
  unfold String.utf8EncodeChar
  rw [hv, if_neg (by omega), if_neg (by omega), if_pos (by omega), ofNat_eq_octet b₀ (by omega),
    ofNat_eq_octet b₁ (by omega), ofNat_eq_octet b₂ (by omega)]

theorem encodeChar_four {b₀ b₁ b₂ b₃ : UInt8} (h₀ : 0xF0 ≤ b₀.toNat) (h₀' : b₀.toNat ≤ 0xF4)
    (h₁ : 0x80 ≤ b₁.toNat) (h₁' : b₁.toNat ≤ 0xBF) (h₂ : 0x80 ≤ b₂.toNat) (h₂' : b₂.toNat ≤ 0xBF)
    (h₃ : 0x80 ≤ b₃.toNat) (h₃' : b₃.toNat ≤ 0xBF)
    (hF0 : b₀.toNat = 0xF0 → 0x90 ≤ b₁.toNat) (hF4 : b₀.toNat = 0xF4 → b₁.toNat ≤ 0x8F) :
    String.utf8EncodeChar (Char.ofNat ((((b₀.toNat - 0xF0) * 64 + (b₁.toNat - 0x80)) * 64 +
      (b₂.toNat - 0x80)) * 64 + (b₃.toNat - 0x80))) = [b₀, b₁, b₂, b₃] := by
  have hv := toNat_val_ofNat ((((b₀.toNat - 0xF0) * 64 + (b₁.toNat - 0x80)) * 64 +
      (b₂.toNat - 0x80)) * 64 + (b₃.toNat - 0x80))
    (by unfold Nat.isValidChar; omega)
  unfold String.utf8EncodeChar
  rw [hv, if_neg (by omega), if_neg (by omega), if_neg (by omega), ofNat_eq_octet b₀ (by omega),
    ofNat_eq_octet b₁ (by omega), ofNat_eq_octet b₂ (by omega),
    ofNat_eq_octet b₃ (by omega)]

/-- Bytes that decoding gets past the first character of begin with that character's
encoding. -/
theorem exists_encodeChar_prefix {b : UInt8} {rest : Bytes} {pos : Nat} {acc out : List Char}
    (h : strictGo none (b :: rest) pos acc = .ok out) :
    ∃ c tail, b :: rest = String.utf8EncodeChar c ++ tail := by
  rcases start_cases b with ⟨h₀, hs⟩ | ⟨h₀, h₀', hs⟩ | ⟨h₀, h₀', lo, hi, hs, hlo, hhi, hE0, hED⟩ |
    ⟨h₀, h₀', lo, hi, hs, hlo, hhi, hF0, hF4⟩ | hs
  · exact ⟨_, rest, by rw [encodeChar_one h₀]; rfl⟩
  · simp only [strictGo, hs] at h
    obtain ⟨b₁, rest₁, rfl, h₁, h₁', -⟩ := strictGo_last (le_refl _) h
    simp only [UInt8.le_iff_toNat_le, UInt8.reduceToNat] at h₁ h₁'
    exact ⟨_, rest₁, by rw [encodeChar_two h₀ h₀' h₁ h₁']; rfl⟩
  · simp only [strictGo, hs] at h
    obtain ⟨b₁, rest₁, rfl, h₁, h₁', h⟩ := strictGo_more (by simp) h
    obtain ⟨b₂, rest₂, rfl, h₂, h₂', -⟩ := strictGo_last (le_refl _) h
    simp only [UInt8.le_iff_toNat_le, UInt8.reduceToNat] at h₁ h₁' h₂ h₂'
    -- the second octet's range is the lead octet's own
    have hb₁ : 0x80 ≤ b₁.toNat ∧ b₁.toNat ≤ 0xBF := by omega
    have hE0₁ : b.toNat = 0xE0 → 0xA0 ≤ b₁.toNat := fun h => by have := hE0 h; omega
    have hED₁ : b.toNat = 0xED → b₁.toNat ≤ 0x9F := fun h => by have := hED h; omega
    exact ⟨_, rest₂, by rw [encodeChar_three h₀ h₀' hb₁.1 hb₁.2 h₂ h₂' hE0₁ hED₁]; rfl⟩
  · simp only [strictGo, hs] at h
    obtain ⟨b₁, rest₁, rfl, h₁, h₁', h⟩ := strictGo_more (by simp) h
    obtain ⟨b₂, rest₂, rfl, h₂, h₂', h⟩ := strictGo_more (by simp) h
    obtain ⟨b₃, rest₃, rfl, h₃, h₃', -⟩ := strictGo_last (le_refl _) h
    simp only [UInt8.le_iff_toNat_le, UInt8.reduceToNat] at h₁ h₁' h₂ h₂' h₃ h₃'
    have hb₁ : 0x80 ≤ b₁.toNat ∧ b₁.toNat ≤ 0xBF := by omega
    have hF0₁ : b.toNat = 0xF0 → 0x90 ≤ b₁.toNat := fun h => by have := hF0 h; omega
    have hF4₁ : b.toNat = 0xF4 → b₁.toNat ≤ 0x8F := fun h => by have := hF4 h; omega
    exact ⟨_, rest₃, by rw [encodeChar_four h₀ h₀' hb₁.1 hb₁.2 h₂ h₂' h₃ h₃' hF0₁ hF4₁]; rfl⟩
  · simp [strictGo, hs] at h

/-! ## Decoding inverts encoding -/

/-- What strict decoding accepts is the encoding of the characters it returns. -/
theorem strictGo_sound {pos : Nat} {acc out : List Char} :
    {bs : Bytes} → strictGo none bs pos acc = .ok out →
      ∃ cs, bs = cs.flatMap String.utf8EncodeChar ∧ out = acc.reverse ++ cs
  | [], h => by
    simp only [strictGo, Except.ok.injEq] at h
    exact ⟨[], rfl, by simp [h]⟩
  | b :: rest, h => by
    obtain ⟨c, tail, htail⟩ := exists_encodeChar_prefix h
    rw [htail, strictGo_encodeChar] at h
    have hshorter : tail.length < (b :: rest).length := by
      rw [htail, List.length_append]
      have : 0 < (String.utf8EncodeChar c).length :=
        List.length_pos_iff.2 String.utf8EncodeChar_ne_nil
      omega
    obtain ⟨cs, rfl, rfl⟩ := strictGo_sound h
    exact ⟨c :: cs, by rw [htail, List.flatMap_cons], by simp⟩
termination_by bs => bs.length
decreasing_by exact hshorter

/-- Strict decoding accepts exactly the encodings of texts, and reads each back as its text. -/
theorem decode_eq_ok_iff (bs : Bytes) (s : String) : decode bs = .ok s ↔ bs = encode s := by
  constructor
  · intro h
    obtain ⟨cs, hcs, rfl⟩ : ∃ cs, decodeChars bs = .ok cs ∧ String.ofList cs = s := by
      unfold decode at h
      cases hd : decodeChars bs with
      | error e => rw [hd] at h; cases h
      | ok cs => rw [hd] at h; exact ⟨cs, rfl, Except.ok.inj h⟩
    obtain ⟨cs', rfl, hout⟩ := strictGo_sound hcs
    simp only [List.reverse_nil, List.nil_append] at hout
    rw [hout, encode_ofList]
  · rintro rfl
    exact decode_encode s

/-- Lossy decoding takes the steps strict decoding takes wherever that succeeds. -/
theorem lossyGo_of_strictGo {p : Option Pending} {bs : Bytes} {pos : Nat} {acc out : List Char}
    (h : strictGo p bs pos acc = .ok out) : lossyGo p bs acc = out := by
  fun_induction strictGo p bs pos acc <;> simp_all [lossyGo]

/-- Lossy decoding reads every encoded text back unchanged. -/
theorem lossy_encode (s : String) : lossy (encode s) = s := by
  have hgo := strictGo_flatMap s.toList [] 0 []
  rw [List.append_nil, List.append_nil, strictGo] at hgo
  rw [lossy, lossyChars, encode_eq_flatMap, lossyGo_of_strictGo hgo, List.reverse_reverse,
    String.ofList_toList]

/-! ## Character boundaries -/

theorem length_encode (s : String) : (encode s).length = s.utf8ByteSize := by
  rw [encode, byteArray_toList, Array.length_toList, ← ByteArray.size, String.toUTF8_eq_toByteArray,
    String.size_toByteArray]

theorem encode_append (s t : String) : encode (s ++ t) = encode s ++ encode t := by
  rw [encode_eq_flatMap, encode_eq_flatMap, encode_eq_flatMap, String.toList_append,
    List.flatMap_append]

theorem length_flatMap_encodeChar (cs : List Char) :
    (cs.flatMap String.utf8EncodeChar).length = (String.ofList cs).utf8ByteSize := by
  rw [← length_encode, encode_ofList]

/-- A character's encoding is a first octet followed by continuation octets. -/
theorem encodeChar_shape (c : Char) :
    ∃ b tail, String.utf8EncodeChar c = b :: tail ∧ (b.toNat < 0x80 ∨ 0xC0 ≤ b.toNat) ∧
      ∀ x ∈ tail, 0x80 ≤ x.toNat ∧ x.toNat < 0xC0 := by
  have hv : c.val.toNat < 0x110000 := by
    rcases c.valid with h | h <;> omega
  unfold String.utf8EncodeChar
  dsimp only
  split_ifs with h1 h2 h3
  · exact ⟨_, [], rfl, .inl (by rw [toNat_ofNat_octet _ (by omega)]; omega), by simp⟩
  · refine ⟨_, _, rfl, .inr (by rw [toNat_ofNat_octet _ (by omega)]; omega), ?_⟩
    simp only [List.mem_singleton, forall_eq]
    rw [toNat_ofNat_octet _ (by omega)]
    omega
  · refine ⟨_, _, rfl, .inr (by rw [toNat_ofNat_octet _ (by omega)]; omega), ?_⟩
    simp only [List.mem_cons, List.not_mem_nil, or_false, forall_eq_or_imp, forall_eq]
    rw [toNat_ofNat_octet _ (by omega), toNat_ofNat_octet _ (by omega)]
    omega
  · refine ⟨_, _, rfl, .inr (by rw [toNat_ofNat_octet _ (by omega)]; omega), ?_⟩
    simp only [List.mem_cons, List.not_mem_nil, or_false, forall_eq_or_imp, forall_eq]
    rw [toNat_ofNat_octet _ (by omega), toNat_ofNat_octet _ (by omega),
      toNat_ofNat_octet _ (by omega)]
    omega

/-- An octet of encoded text starts a character exactly where the characters before it end. -/
theorem startsChar_iff {cs : List Char} {j : Nat} {b : UInt8}
    (h : (cs.flatMap String.utf8EncodeChar)[j]? = some b) :
    (b.toNat < 0x80 ∨ 0xC0 ≤ b.toNat) ↔
      ∃ pre post, cs = pre ++ post ∧ (pre.flatMap String.utf8EncodeChar).length = j := by
  induction cs generalizing j with
  | nil => simp at h
  | cons c cs ih =>
    obtain ⟨b₀, tail, hE, hlead, hcont⟩ := encodeChar_shape c
    rw [List.flatMap_cons, hE] at h
    simp only [List.cons_eq_append_iff]
    cases j with
    | zero =>
      simp only [List.cons_append, List.getElem?_cons_zero, Option.some.injEq] at h
      subst h
      exact ⟨fun _ => ⟨[], _, .inl ⟨rfl, rfl⟩, rfl⟩, fun _ => hlead⟩
    | succ j =>
      simp only [List.cons_append, List.getElem?_cons_succ] at h
      by_cases hj : j < tail.length
      · -- inside the first character: a continuation octet, and no prefix ends there
        rw [List.getElem?_append_left hj] at h
        have hb := hcont b (List.mem_of_getElem? h)
        refine ⟨fun hl => absurd hl (by omega), ?_⟩
        rintro ⟨pre, post, ⟨rfl, rfl⟩ | ⟨pre', rfl, -⟩, hlen⟩
        · simp at hlen
        · simp only [List.flatMap_cons, hE, List.length_append, List.length_cons] at hlen
          omega
      · rw [List.getElem?_append_right (by omega)] at h
        rw [ih h]
        constructor
        · rintro ⟨pre', post, rfl, hlen⟩
          exact ⟨c :: pre', post, .inr ⟨pre', rfl, rfl⟩, by
            simp only [List.flatMap_cons, hE, List.length_append, List.length_cons]; omega⟩
        · rintro ⟨pre, post, ⟨rfl, rfl⟩ | ⟨pre', rfl, rfl⟩, hlen⟩
          · simp at hlen
          · simp only [List.flatMap_cons, hE, List.length_append, List.length_cons] at hlen
            exact ⟨pre', post, rfl, by omega⟩

/-- Character boundaries of encoded text are the byte lengths of its prefixes. -/
theorem isBoundary_flatMap (cs : List Char) (i : Nat) :
    isBoundary (cs.flatMap String.utf8EncodeChar) i = true ↔
      ∃ pre post, cs = pre ++ post ∧ (pre.flatMap String.utf8EncodeChar).length = i := by
  have hle : ∀ pre post, cs = pre ++ post →
      (pre.flatMap String.utf8EncodeChar).length ≤ (cs.flatMap String.utf8EncodeChar).length := by
    rintro pre post rfl
    simp
  unfold isBoundary
  simp only [Bool.or_eq_true, beq_iff_eq]
  -- an offset inside the bytes is decided by its octet, the end is always a boundary, and an
  -- offset past the end never is
  rcases Nat.lt_trichotomy i (cs.flatMap String.utf8EncodeChar).length with hi | hi | hi
  · have hb := List.getElem?_eq_getElem hi
    rw [hb, ← startsChar_iff hb]
    simp only [decide_eq_true_eq, Bool.or_eq_true]
    constructor
    · rintro ((rfl | h) | h)
      · exact (startsChar_iff hb).2 ⟨[], cs, rfl, rfl⟩
      · omega
      · exact h
    · intro h
      exact .inr h
  · subst hi
    simp only [true_or, or_true, true_iff]
    exact ⟨cs, [], by simp, rfl⟩
  · rw [List.getElem?_eq_none (by omega)]
    simp only [or_false, Bool.false_eq_true]
    constructor
    · rintro (rfl | rfl) <;> omega
    · rintro ⟨pre, post, hcs, rfl⟩
      have := hle pre post hcs
      omega

/-- A byte offset is a character boundary of a text exactly when it is a valid position in it. -/
theorem isBoundary_encode (s : String) (i : Nat) :
    isBoundary (encode s) i = true ↔ (⟨i⟩ : String.Pos.Raw).IsValid s := by
  rw [encode_eq_flatMap, isBoundary_flatMap, String.Pos.Raw.isValid_iff_exists_append]
  constructor
  · rintro ⟨pre, post, hs, rfl⟩
    refine ⟨String.ofList pre, String.ofList post, ?_, ?_⟩
    · rw [← String.toList_inj, String.toList_append, String.toList_ofList, String.toList_ofList, hs]
    · rw [length_flatMap_encodeChar]
      rfl
  · rintro ⟨s₁, s₂, rfl, hp⟩
    refine ⟨s₁.toList, s₂.toList, String.toList_append, ?_⟩
    rw [length_flatMap_encodeChar, String.ofList_toList]
    exact congrArg String.Pos.Raw.byteIdx hp.symm

/-- The text between two byte offsets is there exactly when both cut the text into pieces, and it
is the piece between them. -/
theorem slice?_eq_some_iff (s : String) (a n : Nat) (t : String) :
    slice? s a (a + n) = some t ↔
      ∃ pre mid post : String, s = pre ++ mid ++ post ∧ pre.utf8ByteSize = a ∧
        mid.utf8ByteSize = n ∧ t = mid := by
  unfold slice?
  dsimp only
  constructor
  · intro h
    split_ifs at h with hc
    obtain ⟨-, -, ha, hb⟩ := hc
    rw [encode_eq_flatMap, isBoundary_flatMap] at ha hb
    obtain ⟨P, Q, hPQ, hP⟩ := ha
    obtain ⟨P₂, Q₂, hPQ₂, hP₂⟩ := hb
    -- both ends are prefixes of the characters, and the shorter one is the first
    obtain ⟨M, rfl, rfl⟩ : ∃ M, P₂ = P ++ M ∧ Q = M ++ Q₂ := by
      rcases List.append_eq_append_iff.1 (hPQ.symm.trans hPQ₂) with ⟨M, h₁, h₂⟩ | ⟨M, h₁, h₂⟩
      · exact ⟨M, h₁, h₂⟩
      · subst h₁
        simp only [List.flatMap_append, List.length_append] at hP
        have hM : M.flatMap String.utf8EncodeChar = [] := List.eq_nil_of_length_eq_zero (by omega)
        obtain rfl : M = [] := by
          cases M with
          | nil => rfl
          | cons c M => simp [String.utf8EncodeChar_ne_nil] at hM
        exact ⟨[], by simp, by simp [h₂]⟩
    simp only [List.flatMap_append, List.length_append] at hP₂
    refine ⟨String.ofList P, String.ofList M, String.ofList Q₂, ?_, ?_, ?_, ?_⟩
    · rw [← String.toList_inj, hPQ]
      simp
    · rw [← length_flatMap_encodeChar, hP]
    · rw [← length_flatMap_encodeChar]
      omega
    · rw [← Option.some.inj h, encode_eq_flatMap, hPQ, List.flatMap_append, List.flatMap_append,
        ← hP, List.drop_left, Nat.add_sub_cancel_left, List.take_left' (by omega), ← encode_ofList,
        lossy_encode]
  · rintro ⟨pre, t, post, rfl, rfl, rfl, rfl⟩
    have henc : encode (pre ++ t ++ post) = encode pre ++ (encode t ++ encode post) := by
      rw [encode_append, encode_append, List.append_assoc]
    rw [if_pos]
    · rw [henc, ← length_encode pre, List.drop_left, Nat.add_sub_cancel_left, ← length_encode t,
        List.take_left, lossy_encode]
    · refine ⟨by omega, by simp [henc, length_encode], ?_, ?_⟩
      · rw [isBoundary_encode, String.Pos.Raw.isValid_iff_exists_append]
        exact ⟨pre, t ++ post, String.append_assoc .., rfl⟩
      · rw [isBoundary_encode, String.Pos.Raw.isValid_iff_exists_append]
        refine ⟨pre ++ t, post, rfl, ?_⟩
        simp [String.Pos.Raw.ext_iff, String.utf8ByteSize_append]

/-- The text between two byte offsets is there exactly when they are in order, within the text,
and both valid positions of it. -/
theorem isSome_slice?_iff (s : String) (a b : Nat) :
    (slice? s a b).isSome ↔ a ≤ b ∧ b ≤ s.utf8ByteSize ∧ (⟨a⟩ : String.Pos.Raw).IsValid s ∧
      (⟨b⟩ : String.Pos.Raw).IsValid s := by
  unfold slice?
  dsimp only
  rw [← length_encode, ← isBoundary_encode, ← isBoundary_encode]
  split_ifs with h <;> simp [h]

end Utf8
end PgBinding
