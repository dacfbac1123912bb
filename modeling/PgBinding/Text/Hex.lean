import PgBinding.Text.Utf8
/-!
Lowercase hexadecimal text of byte lists, two digits per octet.
-/
namespace PgBinding
namespace Hex

/-- The lowercase hex digits of `n`, zero-padded on the left to at least `width` digits. -/
def fixed (width n : Nat) : String :=
  let ds := (Nat.toDigits 16 n)
  String.ofList (List.replicate (width - ds.length) '0' ++ ds)

/-- The digit for a value below sixteen. -/
def digit (n : Nat) : Char :=
  if n < 10 then Char.ofNat (48 + n) else Char.ofNat (87 + n)

/-- Two lowercase digits per octet. -/
def encode (bs : Bytes) : String :=
  String.ofList (bs.flatMap fun b => [digit (b.toNat / 16), digit (b.toNat % 16)])

/-- The value of one hexadecimal digit, either case. -/
def value? (c : Char) : Option Nat :=
  if '0' ≤ c ∧ c ≤ '9' then some (c.toNat - 48)
  else if 'a' ≤ c ∧ c ≤ 'f' then some (c.toNat - 87)
  else if 'A' ≤ c ∧ c ≤ 'F' then some (c.toNat - 55)
  else none

/-- Reads pairs of digits; an odd count or a non-digit gives `none`. -/
def decodeChars : List Char → Option Bytes
  | [] => some []
  | [_] => none
  | a :: b :: rest => do
    let hi ← value? a
    let lo ← value? b
    let tail ← decodeChars rest
    return UInt8.ofNat (hi * 16 + lo) :: tail

/-- The octets written by `s`, if it is an even run of hexadecimal digits. -/
def decode (s : String) : Option Bytes := decodeChars s.toList

end Hex
end PgBinding
