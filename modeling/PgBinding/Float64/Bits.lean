/-!
Doubles built and taken apart in exact arithmetic.

A finite double is `m · 2^e` with a sign. Building one from a natural number rounds to the
nearest representable value, a tie going to the even significand; this is the rounding of the
hardware conversion, written out so that no step depends on the runtime.
-/
namespace PgBinding
namespace Float64

/-- A finite, non-zero magnitude as significand and binary exponent: `mantissa · 2^exponent`.
`lowerCloser` marks the bottom of a binade, where the next smaller double is half as far away as
the next larger one. -/
structure Parts where
  mantissa : Nat
  exponent : Int
  lowerCloser : Bool
  deriving Repr, DecidableEq

/-- The sign bit of a double. -/
def negative (f : Float) : Bool := f.toBits >>> 63 == 1

/-- The magnitude of a finite non-zero double; `none` for zero, infinities and NaN. -/
def parts? (f : Float) : Option Parts :=
  let bits := f.toBits
  let frac := (bits &&& 0xFFFFFFFFFFFFF).toNat
  let biased := ((bits >>> 52) &&& 0x7FF).toNat
  if biased = 0x7FF then none
  else if biased = 0 then
    if frac = 0 then none else some ⟨frac, -1074, false⟩
  else some ⟨frac + Nat.pow 2 52, (biased : Int) - 1075, frac = 0 ∧ biased > 1⟩

/-- Bit length of a natural number. -/
def bitLength (n : Nat) : Nat := if n = 0 then 0 else Nat.log2 n + 1

/-- The double nearest to `n` (ties to even), or infinity past the largest double. -/
def ofNat (n : Nat) : Float :=
  if n = 0 then Float.ofBits 0 else
  let len := bitLength n
  -- significand `q` in `[2^52, 2^53)` and shift `s` with `n ≈ q · 2^s`
  let (q, s) : Nat × Nat :=
    if len ≤ 53 then (n <<< (53 - len), 0)
    else
      let s := len - 53
      let q := n >>> s
      let r := n % Nat.pow 2 s
      let half := Nat.pow 2 (s - 1)
      let up := r > half || (r == half && q % 2 == 1)
      let q := if up then q + 1 else q
      if q = Nat.pow 2 53 then (Nat.pow 2 52, s + 1) else (q, s)
  let biased : Nat := if len ≤ 53 then len - 1 + 1023 else s + 1075
  if biased ≥ 0x7FF then Float.ofBits 0x7FF0000000000000
  else Float.ofBits (UInt64.ofNat (biased * Nat.pow 2 52 + (q - Nat.pow 2 52)))

/-- `10^k` rounded to the nearest double. -/
def pow10 (k : Nat) : Float := ofNat (Nat.pow 10 k)

/-- The doubles nearest to `10^0` through `10^308`, the powers a decimal reader scales by. -/
def pow10Table : Array Float := (Array.range 309).map pow10

end Float64
end PgBinding
