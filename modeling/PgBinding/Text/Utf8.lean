/-!
UTF-8 as the binding layer meets it: byte lists that may or may not be well formed.

A decoder reads one octet at a time. A lead octet fixes how many continuation octets follow and
the admissible range of the first of them (RFC 3629: after `E0` only `A0..BF`, after `ED` only
`80..9F`, after `F0` only `90..BF`, after `F4` only `80..8F`). The longest prefix of a sequence
that can still grow into a character is what strict decoding reports as the length of an
invalid sequence, and what lossy decoding replaces by one U+FFFD.
-/
namespace PgBinding

/-- Bytes as they cross the boundary to the engine or sit in a payload. -/
abbrev Bytes := List UInt8

namespace Utf8

/-- A character whose continuation octets are still owed. -/
structure Pending where
  /-- Code point bits read so far. -/
  value : Nat
  /-- Continuation octets still owed. -/
  need : Nat
  /-- Least admissible next octet. -/
  lo : UInt8
  /-- Greatest admissible next octet. -/
  hi : UInt8
  /-- Octets read so far. -/
  len : Nat
  deriving Repr, DecidableEq

/-- What a first octet starts. -/
inductive Start where
  /-- A one-octet character. -/
  | ascii (c : Char)
  /-- The first octet of a longer character. -/
  | lead (p : Pending)
  /-- An octet that cannot start a character. -/
  | bad
  deriving Repr, DecidableEq

/-- Classifies an octet read between characters. -/
def start (b : UInt8) : Start :=
  let n := b.toNat
  if n < 0x80 then .ascii (Char.ofNat n)
  else if n < 0xC2 then .bad
  else if n < 0xE0 then .lead ⟨n - 0xC0, 1, 0x80, 0xBF, 1⟩
  else if n = 0xE0 then .lead ⟨0, 2, 0xA0, 0xBF, 1⟩
  else if n = 0xED then .lead ⟨0xD, 2, 0x80, 0x9F, 1⟩
  else if n < 0xF0 then .lead ⟨n - 0xE0, 2, 0x80, 0xBF, 1⟩
  else if n = 0xF0 then .lead ⟨0, 3, 0x90, 0xBF, 1⟩
  else if n < 0xF4 then .lead ⟨n - 0xF0, 3, 0x80, 0xBF, 1⟩
  else if n = 0xF4 then .lead ⟨4, 3, 0x80, 0x8F, 1⟩
  else .bad

/-- Feeds one continuation octet to a pending character: the finished character, or what is
still owed. Only called with an admissible octet. -/
def Pending.feed (p : Pending) (b : UInt8) : Char ⊕ Pending :=
  let value := p.value * 64 + (b.toNat - 0x80)
  if p.need ≤ 1 then .inl (Char.ofNat value)
  else .inr ⟨value, p.need - 1, 0x80, 0xBF, p.len + 1⟩

/-- Whether `b` may be the next octet of `p`. -/
def Pending.admits (p : Pending) (b : UInt8) : Bool :=
  p.lo ≤ b && b ≤ p.hi

/-- The replacement character written for each invalid sequence. -/
def replacement : Char := '�'

/-- Lossy decoding, one octet at a time: each maximal invalid sequence and a character cut
short by the end of input become one U+FFFD. The accumulator is in reverse order. -/
def lossyGo : Option Pending → Bytes → List Char → List Char
  | none, [], acc => acc.reverse
  | some _, [], acc => (replacement :: acc).reverse
  | none, b :: rest, acc =>
    match start b with
    | .ascii c => lossyGo none rest (c :: acc)
    | .lead p => lossyGo (some p) rest acc
    | .bad => lossyGo none rest (replacement :: acc)
  | some p, b :: rest, acc =>
    if p.admits b then
      match p.feed b with
      | .inl c => lossyGo none rest (c :: acc)
      | .inr q => lossyGo (some q) rest acc
    else
      -- the pending sequence ends here; `b` starts afresh
      match start b with
      | .ascii c => lossyGo none rest (c :: replacement :: acc)
      | .lead q => lossyGo (some q) rest (replacement :: acc)
      | .bad => lossyGo none rest (replacement :: replacement :: acc)

/-- The characters of `bs`, with U+FFFD for every invalid sequence. -/
def lossyChars (bs : Bytes) : List Char := lossyGo none bs []

/-- The text of `bs`, with U+FFFD for every invalid sequence. -/
def lossy (bs : Bytes) : String := String.ofList (lossyChars bs)

/-- Why a byte list is not UTF-8: where the well-formed prefix ends, and the length of the
invalid sequence there, or `none` when the input ends inside a character. -/
structure Error where
  validUpTo : Nat
  errorLen : Option Nat
  deriving Repr, DecidableEq

/-- Strict decoding. `pos` is the offset of the next octet; `from` the offset where the
pending character began. -/
def strictGo : Option Pending → Bytes → Nat → List Char → Except Error (List Char)
  | none, [], _, acc => .ok acc.reverse
  | some p, [], pos, _ => .error ⟨pos - p.len, none⟩
  | none, b :: rest, pos, acc =>
    match start b with
    | .ascii c => strictGo none rest (pos + 1) (c :: acc)
    | .lead p => strictGo (some p) rest (pos + 1) acc
    | .bad => .error ⟨pos, some 1⟩
  | some p, b :: rest, pos, acc =>
    if p.admits b then
      match p.feed b with
      | .inl c => strictGo none rest (pos + 1) (c :: acc)
      | .inr q => strictGo (some q) rest (pos + 1) acc
    else .error ⟨pos - p.len, some p.len⟩

/-- The characters of `bs` if it is well-formed UTF-8. -/
def decodeChars (bs : Bytes) : Except Error (List Char) := strictGo none bs 0 []

/-- The text of `bs` if it is well-formed UTF-8. -/
def decode (bs : Bytes) : Except Error String := (decodeChars bs).map String.ofList

/-- Whether `bs` is well-formed UTF-8. -/
def valid (bs : Bytes) : Bool := (decodeChars bs).toBool

/-- The message of a decoding error, as the standard library words it. -/
def Error.message (e : Error) : String :=
  match e.errorLen with
  | some n => s!"invalid utf-8 sequence of {n} bytes from index {e.validUpTo}"
  | none => s!"incomplete utf-8 byte sequence from index {e.validUpTo}"

/-- The debug form of a decoding error. -/
def Error.debug (e : Error) : String :=
  let len := match e.errorLen with
    | some n => s!"Some({n})"
    | none => "None"
  "Utf8Error \x7b valid_up_to: " ++ toString e.validUpTo ++ ", error_len: " ++ len ++ " \x7d"

/-- The UTF-8 bytes of a text. -/
def encode (s : String) : Bytes := s.toUTF8.toList

/-- Whether `i` is a character boundary of the well-formed bytes `bs`: the start, the end, or an
offset whose octet is not a continuation octet. -/
def isBoundary (bs : Bytes) (i : Nat) : Bool :=
  i == 0 || i == bs.length ||
    match bs[i]? with
    | some b => b.toNat < 0x80 || 0xC0 ≤ b.toNat
    | none => false

/-- The text between byte offsets `a` and `b` of `s`, when both are character boundaries and
`a ≤ b ≤ s`'s length in bytes. -/
def slice? (s : String) (a b : Nat) : Option String :=
  let bs := encode s
  if a ≤ b ∧ b ≤ bs.length ∧ isBoundary bs a ∧ isBoundary bs b then
    some (lossy ((bs.drop a).take (b - a)))
  else none

end Utf8

end PgBinding
