import Mathlib
import PgBinding.Wire.Field
/-!
# Reading back what the wire writer writes

Each piece of the wire format is read back from any input that follows it: UTF-8 text, a varint
below `2^64`, a field key whose number lies in `[1, 2^29)`, a signed 32-bit value, and a length
prefix with the bytes it covers. `varintLen`, `scalarLen` and `chunkLen` are the numbers of
octets the writer writes.

A message body is read by a loop over its fields down to a limit. `ReadsEntries` says that
reading some entries in front of any tail takes the loop's state from one value to another with
fuel to spare; entries compose by `ReadsEntries.append`, and a body read to its limit ends the
loop (`readFields_at_limit`). The parse tree and scanner round trips are assembled from these.
-/
namespace PgBinding

/-! ## UTF-8 -/

namespace Utf8

theorem toList_loop (bs : ByteArray) (i : Nat) (r : List UInt8) :
    ByteArray.toList.loop bs i r = r.reverse ++ bs.data.toList.drop i := by
  fun_induction ByteArray.toList.loop bs i r with
  | case1 i r h ih =>
    have hi : i < bs.data.toList.length := by simpa using h
    rw [ih, List.reverse_cons, List.append_assoc, List.drop_eq_getElem_cons hi]
    obtain ⟨data⟩ := bs
    have hd : i < data.size := h
    simp [ByteArray.get!, getElem!_pos data i hd]
  | case2 i r h =>
    have hi : bs.data.toList.length ≤ i := by simpa using h
    rw [List.drop_eq_nil_of_le hi, List.append_nil]

theorem byteArray_toList (bs : ByteArray) : bs.toList = bs.data.toList := by
  rw [ByteArray.toList, toList_loop]
  simp

/-- The encoding of a text is the encodings of its characters, in order. -/
theorem encode_eq_flatMap (s : String) : encode s = s.toList.flatMap String.utf8EncodeChar := by
  rw [encode, String.toUTF8_eq_toByteArray, ← String.utf8Encode_toList, List.utf8Encode,
    byteArray_toList, List.toList_data_toByteArray]

theorem toNat_ofNat_octet (n : Nat) (h : n < 256) : (UInt8.ofNat n).toNat = n := by
  simp [UInt8.toNat_ofNat', Nat.mod_eq_of_lt h]

theorem strictGo_congr {rest : Bytes} {p q x v : Nat} {acc : List Char} (hp : p = q)
    (hx : x = v) :
    strictGo none rest p (Char.ofNat x :: acc) = strictGo none rest q (Char.ofNat v :: acc) := by
  rw [hp, hx]

/-! The four lengths of a character, each octet written as the character's bits arithmetically. -/

theorem strictGo_one (v : Nat) (h : v ≤ 127) (rest : Bytes) (pos : Nat) (acc : List Char) :
    strictGo none (UInt8.ofNat v :: rest) pos acc = strictGo none rest (pos + 1) (Char.ofNat v :: acc) := by
  simp (disch := omega) only [strictGo, start, toNat_ofNat_octet v (by omega), if_pos]

theorem strictGo_two (v : Nat) (h1 : 127 < v) (h2 : v ≤ 2047) (rest : Bytes) (pos : Nat)
    (acc : List Char) :
    strictGo none (UInt8.ofNat (v / 64 % 32 + 192) :: UInt8.ofNat (v % 64 + 128) :: rest) pos acc =
      strictGo none rest (pos + 2) (Char.ofNat v :: acc) := by
  have hb0 := toNat_ofNat_octet (v / 64 % 32 + 192) (by omega)
  have hb1 := toNat_ofNat_octet (v % 64 + 128) (by omega)
  simp (disch := omega) only [strictGo, start, hb0, hb1, if_pos, if_neg, Pending.admits,
    Pending.feed, UInt8.le_iff_toNat_le, UInt8.reduceToNat, Bool.and_eq_true, decide_eq_true_eq]
  exact strictGo_congr (by omega) (by omega)

theorem strictGo_three (v : Nat) (h1 : 2047 < v) (h2 : v ≤ 65535) (hs : v < 0xD800 ∨ 0xDFFF < v)
    (rest : Bytes) (pos : Nat) (acc : List Char) :
    strictGo none (UInt8.ofNat (v / 4096 % 16 + 224) :: UInt8.ofNat (v / 64 % 64 + 128) ::
        UInt8.ofNat (v % 64 + 128) :: rest) pos acc =
      strictGo none rest (pos + 3) (Char.ofNat v :: acc) := by
  have hb0 := toNat_ofNat_octet (v / 4096 % 16 + 224) (by omega)
  have hb1 := toNat_ofNat_octet (v / 64 % 64 + 128) (by omega)
  have hb2 := toNat_ofNat_octet (v % 64 + 128) (by omega)
  -- after E0 and ED the second octet has a narrower range: split on those two lead octets
  rcases (by omega : v < 4096 ∨ v / 4096 = 13 ∨ (4096 ≤ v ∧ v / 4096 ≠ 13)) with h | h | h
  all_goals
    simp (disch := omega) only [strictGo, start, hb0, hb1, hb2, if_pos, if_neg, Pending.admits,
      Pending.feed, UInt8.le_iff_toNat_le, UInt8.reduceToNat, Bool.and_eq_true, decide_eq_true_eq]
    exact strictGo_congr (by omega) (by omega)

theorem strictGo_four (v : Nat) (h1 : 65535 < v) (h2 : v < 0x110000) (rest : Bytes) (pos : Nat)
    (acc : List Char) :
    strictGo none (UInt8.ofNat (v / 262144 % 8 + 240) :: UInt8.ofNat (v / 4096 % 64 + 128) ::
        UInt8.ofNat (v / 64 % 64 + 128) :: UInt8.ofNat (v % 64 + 128) :: rest) pos acc =
      strictGo none rest (pos + 4) (Char.ofNat v :: acc) := by
  have hb0 := toNat_ofNat_octet (v / 262144 % 8 + 240) (by omega)
  have hb1 := toNat_ofNat_octet (v / 4096 % 64 + 128) (by omega)
  have hb2 := toNat_ofNat_octet (v / 64 % 64 + 128) (by omega)
  have hb3 := toNat_ofNat_octet (v % 64 + 128) (by omega)
  -- after F0 and F4 the second octet has a narrower range: split on those two lead octets
  rcases (by omega : v < 262144 ∨ 1048576 ≤ v ∨ (262144 ≤ v ∧ v < 1048576)) with h | h | h
  all_goals
    simp (disch := omega) only [strictGo, start, hb0, hb1, hb2, hb3, if_pos, if_neg,
      Pending.admits, Pending.feed, UInt8.le_iff_toNat_le, UInt8.reduceToNat, Bool.and_eq_true,
      decide_eq_true_eq]
    exact strictGo_congr (by omega) (by omega)

/-- Strict decoding reads the encoding of a character back as that character. -/
theorem strictGo_encodeChar (c : Char) (rest : Bytes) (pos : Nat) (acc : List Char) :
    strictGo none (String.utf8EncodeChar c ++ rest) pos acc =
      strictGo none rest (pos + c.utf8Size) (c :: acc) := by
  -- a character is a scalar value: below 0x110000 and no surrogate
  have hv : c.val.toNat < 0xD800 ∨ (0xDFFF < c.val.toNat ∧ c.val.toNat < 0x110000) := c.valid
  have hc : Char.ofNat c.val.toNat = c := Char.ofNat_toNat c
  rcases Char.utf8Size_eq c with h | h | h | h
  · have hle : c.val.toNat ≤ 127 := by
      simpa [Char.utf8Size_eq_one_iff, UInt32.le_iff_toNat_le] using h
    have henc : String.utf8EncodeChar c = [UInt8.ofNat c.val.toNat] := by
      unfold String.utf8EncodeChar
      dsimp only
      rw [if_pos hle]
    rw [henc, h, List.cons_append, List.nil_append, strictGo_one _ hle, hc]
  · obtain ⟨h1, h2⟩ : 127 < c.val.toNat ∧ c.val.toNat ≤ 2047 := by
      simpa [Char.utf8Size_eq_two_iff, UInt32.le_iff_toNat_le, UInt32.lt_iff_toNat_lt] using h
    have henc : String.utf8EncodeChar c = [UInt8.ofNat (c.val.toNat / 64 % 32 + 192),
        UInt8.ofNat (c.val.toNat % 64 + 128)] := by
      unfold String.utf8EncodeChar
      dsimp only
      rw [if_neg (by omega), if_pos h2]
    rw [henc, h, List.cons_append, List.cons_append, List.nil_append, strictGo_two _ h1 h2, hc]
  · obtain ⟨h1, h2⟩ : 2047 < c.val.toNat ∧ c.val.toNat ≤ 65535 := by
      simpa [Char.utf8Size_eq_three_iff, UInt32.le_iff_toNat_le, UInt32.lt_iff_toNat_lt] using h
    have henc : String.utf8EncodeChar c = [UInt8.ofNat (c.val.toNat / 4096 % 16 + 224),
        UInt8.ofNat (c.val.toNat / 64 % 64 + 128), UInt8.ofNat (c.val.toNat % 64 + 128)] := by
      unfold String.utf8EncodeChar
      dsimp only
      rw [if_neg (by omega), if_neg (by omega), if_pos h2]
    rw [henc, h, List.cons_append, List.cons_append, List.cons_append, List.nil_append,
      strictGo_three _ h1 h2 (by omega), hc]
  · have h1 : 65535 < c.val.toNat := by
      simpa [Char.utf8Size_eq_four_iff, UInt32.lt_iff_toNat_lt] using h
    have henc : String.utf8EncodeChar c = [UInt8.ofNat (c.val.toNat / 262144 % 8 + 240),
        UInt8.ofNat (c.val.toNat / 4096 % 64 + 128), UInt8.ofNat (c.val.toNat / 64 % 64 + 128),
        UInt8.ofNat (c.val.toNat % 64 + 128)] := by
      unfold String.utf8EncodeChar
      dsimp only
      rw [if_neg (by omega), if_neg (by omega), if_neg (by omega)]
    rw [henc, h, List.cons_append, List.cons_append, List.cons_append, List.cons_append,
      List.nil_append, strictGo_four _ h1 (by omega), hc]

theorem strictGo_flatMap (cs : List Char) (rest : Bytes) (pos : Nat) (acc : List Char) :
    strictGo none (cs.flatMap String.utf8EncodeChar ++ rest) pos acc =
      strictGo none rest (pos + (cs.map Char.utf8Size).sum) (cs.reverse ++ acc) := by
  induction cs generalizing pos acc with
  | nil => simp
  | cons c cs ih =>
    rw [List.flatMap_cons, List.append_assoc, strictGo_encodeChar, ih]
    simp [Nat.add_assoc]

/-- Strict decoding reads every encoded text back. -/
theorem decode_encode (s : String) : decode (encode s) = .ok s := by
  have hgo := strictGo_flatMap s.toList [] 0 []
  rw [List.append_nil, List.append_nil] at hgo
  rw [decode, decodeChars, encode_eq_flatMap, hgo, strictGo]
  simp [Except.map]

end Utf8

namespace Wire

/-! ## Varints and keys -/

theorem toNat_ofNat_octet (n : Nat) (h : n < 256) : (UInt8.ofNat n).toNat = n := by
  simp [UInt8.toNat_ofNat', Nat.mod_eq_of_lt h]

/-- Reading from octet `9 - k` on takes back what the writer wrote with `k + 1` octets left, for
a remainder small enough to fit them. -/
theorem readVarint_go_write (k : Nat) (hk : k ≤ 9) (n acc : Nat) (rest : Bytes)
    (hn : n < 2 ^ (64 - 7 * (9 - k))) :
    readVarint.go (9 - k) (7 * (9 - k)) acc (writeVarint.go (k + 1) n ++ rest) =
      .ok (acc + n * 2 ^ (7 * (9 - k)), rest) := by
  induction k generalizing n acc with
  | zero =>
    -- the tenth octet: what is left is below 2 and is written and read as it is
    have hn2 : n < 2 := by simpa using hn
    have hw : writeVarint.go 1 n = [UInt8.ofNat n] := by
      simp [writeVarint.go, show n < 128 by omega]
    rw [hw, List.cons_append, List.nil_append]
    simp (disch := omega) only [readVarint.go, Nat.pow_eq, toNat_ofNat_octet n (by omega), if_pos, if_neg,
      Nat.mod_eq_of_lt (show n < 128 by omega)]
  | succ k ih =>
    by_cases hsmall : n < 128
    · have hw : writeVarint.go (k + 2) n = [UInt8.ofNat n] := by simp [writeVarint.go, hsmall]
      rw [hw, List.cons_append, List.nil_append]
      simp (disch := omega) only [readVarint.go, Nat.pow_eq, toNat_ofNat_octet n (by omega), if_pos, if_neg,
        Nat.mod_eq_of_lt hsmall]
    · have hw : writeVarint.go (k + 2) n =
          UInt8.ofNat (n % 128 + 128) :: writeVarint.go (k + 1) (n / 128) := by
        simp [writeVarint.go, hsmall]
      rw [hw, List.cons_append]
      have hexp : 64 - 7 * (9 - (k + 1)) = (64 - 7 * (9 - k)) + 7 := by omega
      have hnext : n / 128 < 2 ^ (64 - 7 * (9 - k)) := by
        rw [hexp, pow_add] at hn
        exact Nat.div_lt_of_lt_mul (by rw [mul_comm]; exact hn)
      have hstep : 9 - (k + 1) + 1 = 9 - k := by omega
      have hshift : 7 * (9 - (k + 1)) + 7 = 7 * (9 - k) := by omega
      simp (disch := omega) only [readVarint.go, Nat.pow_eq, toNat_ofNat_octet (n % 128 + 128) (by omega),
        if_pos, if_neg]
      rw [hstep, hshift, ih (by omega) _ _ hnext]
      -- the low seven bits were added at this octet's shift, the rest seven bits further up
      have hpow : 2 ^ (7 * (9 - k)) = 2 ^ (7 * (9 - (k + 1))) * 128 := by
        rw [← hshift, pow_add]
        rfl
      have hlow : (n % 128 + 128) % 128 = n % 128 := by omega
      have harith : acc + n % 128 * 2 ^ (7 * (9 - (k + 1))) +
          n / 128 * (2 ^ (7 * (9 - (k + 1))) * 128) = acc + n * 2 ^ (7 * (9 - (k + 1))) := by
        conv_rhs => rw [← Nat.div_add_mod n 128]
        ring
      rw [hpow, hlow, harith]

/-- A varint below `2^64` is read back from any input that follows it. -/
theorem readVarint_writeVarint (n : Nat) (rest : Bytes) (h : n < 2 ^ 64) :
    readVarint (writeVarint n ++ rest) = .ok (n, rest) := by
  have hgo := readVarint_go_write 9 (by omega) n 0 rest (by simpa using h)
  simpa [readVarint, writeVarint] using hgo

theorem length_writeVarint_go (fuel n : Nat) :
    (writeVarint.go fuel n).length = varintLen.go fuel n := by
  induction fuel generalizing n with
  | zero => rfl
  | succ fuel ih =>
    by_cases h : n < 128
    · simp [writeVarint.go, varintLen.go, h]
    · simp [writeVarint.go, varintLen.go, h, ih]

@[simp] theorem length_writeVarint (n : Nat) : (writeVarint n).length = varintLen n :=
  length_writeVarint_go 10 n

theorem varintLen_pos (n : Nat) : 0 < varintLen n := by
  unfold varintLen
  by_cases h : n < 128 <;> simp [varintLen.go, h]

theorem varintLen_go_le (fuel n : Nat) : varintLen.go fuel n ≤ fuel := by
  induction fuel generalizing n with
  | zero => rfl
  | succ fuel ih =>
    by_cases h : n < 128
    · simp [varintLen.go, h]
    · simpa [varintLen.go, h] using ih (n / 128)

theorem varintLen_le (n : Nat) : varintLen n ≤ 10 := varintLen_go_le 10 n

theorem writeVarint_ne_nil (n : Nat) : writeVarint n ≠ [] :=
  List.ne_nil_of_length_pos (by rw [length_writeVarint]; exact varintLen_pos n)

theorem WireType.ofCode?_code (wt : WireType) : WireType.ofCode? wt.code = some wt := by
  cases wt <;> rfl

theorem WireType.code_lt (wt : WireType) : wt.code < 8 := by
  cases wt <;> decide

/-- A key whose field number lies in `[1, 2^29)` is read back from any input that follows it. -/
theorem readKey_writeKey (n : Nat) (wt : WireType) (rest : Bytes) (h0 : 0 < n)
    (h : n < 2 ^ 29) : readKey (writeKey n wt ++ rest) = .ok ((n, wt), rest) := by
  have hc := WireType.code_lt wt
  have hkey : n * 8 + wt.code < 2 ^ 64 := by omega
  have hmod : (n * 8 + wt.code) % 8 = wt.code := by omega
  have hdiv : (n * 8 + wt.code) / 8 = n := by omega
  simp only [readKey, writeKey, readVarint_writeVarint _ _ hkey, bind, Except.bind, hmod, hdiv,
    WireType.ofCode?_code, Nat.pow_eq]
  rw [if_neg (by omega), if_neg (by omega)]

/-! ## Signed 32-bit values -/

theorem setWidth_signExtend_self (x : BitVec 32) :
    BitVec.setWidth 32 (BitVec.signExtend 64 x) = x := by
  ext i hi
  simp [BitVec.getLsbD_signExtend, hi]
  omega

/-- A signed 32-bit value survives its sign extension to a 64-bit varint. -/
theorem toInt32_ofInt32 (v : Int32) : toInt32 (ofInt32 v) = v := by
  simp only [toInt32, ofInt32]
  apply Int32.toBitVec_inj.1
  simpa using setWidth_signExtend_self v.toBitVec

theorem ofInt32_lt (v : Int32) : ofInt32 v < 2 ^ 64 := UInt64.toNat_lt _

theorem ofInt32_eq_zero_iff (v : Int32) : ofInt32 v = 0 ↔ v = 0 := by
  simp only [ofInt32]
  constructor
  · intro h
    apply Int32.toBitVec_inj.1
    have h64 := congrArg (fun n => BitVec.ofNat 64 n) h
    simp only [UInt64.toNat, BitVec.ofNat_toNat, BitVec.setWidth_eq, Int64.toBitVec_toUInt64,
      Int32.toBitVec_toInt64] at h64
    have h32 := congrArg (BitVec.setWidth 32) h64
    rw [setWidth_signExtend_self] at h32
    simpa using h32
  · rintro rfl
    rfl

/-! ## Length-delimited values -/

theorem readChunk_append (p rest : Bytes) (h : p.length < 2 ^ 64) :
    readChunk (writeVarint p.length ++ (p ++ rest)) = .ok (p, rest) := by
  simp only [readChunk, readVarint_writeVarint _ _ h, bind, Except.bind]
  rw [if_neg (by simp)]
  simp

theorem enterBody_append (X tail : Bytes) (h : X.length < 2 ^ 64) :
    enterBody (writeVarint X.length ++ (X ++ tail)) = .ok (tail.length, X ++ tail) := by
  simp only [enterBody, readVarint_writeVarint _ _ h, bind, Except.bind]
  rw [if_neg (by simp)]
  simp

theorem readBytes_append (p rest : Bytes) (h : p.length < 2 ^ 64) :
    readBytes .lengthDelimited (writeVarint p.length ++ (p ++ rest)) = .ok (p, rest) := by
  simp [readBytes, expect, readChunk_append p rest h, bind, Except.bind]

theorem readText_append (s : String) (rest : Bytes) (h : (Utf8.encode s).length < 2 ^ 64) :
    readText .lengthDelimited (writeVarint (Utf8.encode s).length ++ (Utf8.encode s ++ rest)) =
      .ok (s, rest) := by
  simp [readText, expect, readChunk_append _ rest h, bind, Except.bind, Utf8.decode_encode]

theorem readScalar_append (n : Nat) (rest : Bytes) (h : n < 2 ^ 64) :
    readScalar .varint (writeVarint n ++ rest) = .ok (n, rest) := by
  simp [readScalar, expect, readVarint_writeVarint n rest h, bind, Except.bind]

theorem readInt32_append (v : Int32) (rest : Bytes) :
    readInt32 .varint (writeVarint (ofInt32 v) ++ rest) = .ok (v, rest) := by
  simp [readInt32, readScalar_append _ rest (ofInt32_lt v), Except.map, toInt32_ofInt32]

/-! ## Lengths of what is written -/

theorem length_writeKey (n : Nat) (wt : WireType) :
    (writeKey n wt).length = varintLen (n * 8 + wt.code) := by
  simp [writeKey]

theorem length_writeFramed (n len : Nat) (payload : Bytes) :
    (writeFramed n len payload).length =
      varintLen (n * 8 + WireType.lengthDelimited.code) + varintLen len + payload.length := by
  simp [writeFramed, length_writeKey, Nat.add_assoc]

theorem length_writeChunk (n : Nat) (payload : Bytes) :
    (writeChunk n payload).length = chunkLen n payload.length := by
  simp [writeChunk, length_writeFramed, chunkLen]

theorem length_writeScalar (n v : Nat) : (writeScalar n v).length = scalarLen n v := by
  by_cases h : v = 0 <;> simp [writeScalar, scalarLen, h, length_writeKey]

theorem writeFramed_ne_nil (n len : Nat) (payload : Bytes) : writeFramed n len payload ≠ [] := by
  simp [writeFramed, writeKey, writeVarint_ne_nil]

theorem writeInt32_eq_nil {n : Nat} {v : Int32} (h : writeInt32 n v = []) : v = 0 := by
  by_contra hne
  have hne' : ofInt32 v ≠ 0 := fun h0 => hne ((ofInt32_eq_zero_iff v).1 h0)
  simp only [writeInt32, writeScalar, if_neg hne', List.append_eq_nil_iff] at h
  exact writeVarint_ne_nil _ h.2

/-! ## Reading the fields of a message -/

section Entries

variable {σ : Type} (step : σ → Nat → WireType → Bytes → Except DecodeError (σ × Bytes))

/-- Reading the entries `X` in front of any tail, down to a limit within the tail, takes the
loop's state from `s` to `s'` and leaves fuel for the tail. -/
def ReadsEntries (X : Bytes) (s s' : σ) : Prop :=
  ∀ fuel limit tail, limit ≤ tail.length → X.length + (tail.length - limit) < fuel →
    ∃ fuel', tail.length - limit < fuel' ∧
      readFields step fuel s limit (X ++ tail) = readFields step fuel' s' limit tail

variable {step}

theorem ReadsEntries.nil (s : σ) : ReadsEntries step [] s s :=
  fun fuel _ _ _ hfuel => ⟨fuel, by simpa using hfuel, rfl⟩

theorem ReadsEntries.append {X Y : Bytes} {s₁ s₂ s₃ : σ} (h₁ : ReadsEntries step X s₁ s₂)
    (h₂ : ReadsEntries step Y s₂ s₃) : ReadsEntries step (X ++ Y) s₁ s₃ := by
  intro fuel limit tail hlim hfuel
  have hlen : (X ++ Y).length = X.length + Y.length := List.length_append
  obtain ⟨f₁, hf₁, e₁⟩ := h₁ fuel limit (Y ++ tail) (by simp; omega) (by simp; omega)
  obtain ⟨f₂, hf₂, e₂⟩ := h₂ f₁ limit tail hlim (by simp at hf₁; omega)
  exact ⟨f₂, hf₂, by rw [List.append_assoc, e₁, e₂]⟩

/-- One entry: a key read as `(n, wt)`, then a value that `step` reads. -/
theorem ReadsEntries.entry {K V : Bytes} {n : Nat} {wt : WireType} {s s' : σ} (hK : K ≠ [])
    (hkey : ∀ rest, readKey (K ++ rest) = .ok ((n, wt), rest))
    (hstep : ∀ tail, step s n wt (V ++ tail) = .ok (s', tail)) :
    ReadsEntries step (K ++ V) s s' := by
  intro fuel limit tail hlim hfuel
  have hK0 : 0 < K.length := List.length_pos_iff.2 hK
  simp only [List.length_append] at hfuel
  obtain ⟨f, rfl⟩ : ∃ f, fuel = f + 1 := ⟨fuel - 1, by omega⟩
  have hlong : (K ++ V ++ tail).length > limit := by simp; omega
  refine ⟨f, by omega, ?_⟩
  rw [readFields, if_pos hlong, List.append_assoc, hkey]
  simp only [hstep]

/-- A signed 32-bit field, read by a step that stores its value; nothing is written for zero,
which must then be what the state already holds. -/
theorem ReadsEntries.int32 {n : Nat} {s s' : σ} (v : Int32) (h0 : 0 < n) (h29 : n < 2 ^ 29)
    (hstep : ∀ tail, step s n .varint (writeVarint (ofInt32 v) ++ tail) = .ok (s', tail))
    (hzero : v = 0 → s' = s) : ReadsEntries step (writeInt32 n v) s s' := by
  unfold writeInt32 writeScalar
  by_cases hv : ofInt32 v = 0
  · rw [if_pos hv, hzero ((ofInt32_eq_zero_iff v).1 hv)]
    exact ReadsEntries.nil s
  · rw [if_neg hv]
    exact ReadsEntries.entry (writeVarint_ne_nil _) (fun rest => readKey_writeKey n _ rest h0 h29)
      hstep

theorem readFields_at_limit (fuel : Nat) (s : σ) (tail : Bytes) :
    readFields step (fuel + 1) s tail.length tail = .ok (s, tail) := by
  simp [readFields]

/-- Entries that make up the whole input are read to its end. -/
theorem ReadsEntries.readFields_eq {X : Bytes} {s s' : σ} (h : ReadsEntries step X s s') :
    readFields step (X.length + 1) s 0 X = .ok (s', []) := by
  obtain ⟨f, hf, e⟩ := h (X.length + 1) 0 [] le_rfl (by simp)
  obtain ⟨g, rfl⟩ : ∃ g, f = g + 1 := ⟨f - 1, by simp at hf; omega⟩
  rw [List.append_nil] at e
  exact e.trans (readFields_at_limit g s' [])

end Entries

/-- A sub-message whose entries take `init` to `s'` is read back whole, one level down. -/
theorem readNested_append {σ : Type} (depth : Nat) (init s' : σ)
    (step : Nat → σ → Nat → WireType → Bytes → Except DecodeError (σ × Bytes)) (X tail : Bytes)
    (hd : depth ≠ 0) (hX : X.length < 2 ^ 64) (h : ReadsEntries (step (depth - 1)) X init s') :
    readNested depth init step .lengthDelimited (writeVarint X.length ++ (X ++ tail)) =
      .ok (s', tail) := by
  obtain ⟨f, hf, e⟩ := h (X.length + tail.length + 1) tail.length tail le_rfl (by omega)
  obtain ⟨g, rfl⟩ : ∃ g, f = g + 1 := ⟨f - 1, by omega⟩
  simp only [readNested, expect, if_pos, bind, Except.bind, if_neg hd,
    enterBody_append X tail hX, List.length_append]
  rw [e, readFields_at_limit]

end Wire

end PgBinding
