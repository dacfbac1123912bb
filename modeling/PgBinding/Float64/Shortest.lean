import PgBinding.Float64.Bits
/-!
The shortest decimal that reads back as a given double.

The doubles that round to `m · 2^e` form an interval around it, its ends included when `m` is
even. For one, two, … seventeen significant digits the decimal grid at that precision is tried:
the two grid points around the value are the only candidates that can be nearest, so the first
precision with a grid point inside the interval gives the shortest text, the nearer of two hits
wins, and an exact tie goes to the even digit string. Seventeen digits always hit.
-/
namespace PgBinding
namespace Float64

/-- A non-negative rational `num / den`, compared exactly. -/
structure Ratio where
  num : Nat
  den : Nat
  deriving Repr

/-- `d · 10^p` as a rational. -/
def scaled (d : Nat) (p : Int) : Ratio :=
  if p ≥ 0 then ⟨d * Nat.pow 10 p.toNat, 1⟩ else ⟨d, Nat.pow 10 (-p).toNat⟩

/-- `a < b`. -/
def Ratio.lt (a b : Ratio) : Bool := a.num * b.den < b.num * a.den

/-- `a ≤ b`. -/
def Ratio.le (a b : Ratio) : Bool := a.num * b.den ≤ b.num * a.den

/-- `|a - b|` as a rational with the product denominator. -/
def Ratio.dist (a b : Ratio) : Ratio :=
  let x := a.num * b.den
  let y := b.num * a.den
  ⟨if x ≤ y then y - x else x - y, a.den * b.den⟩

/-- The rounding interval of a magnitude: the value and both ends, over one denominator. -/
structure Interval where
  low : Ratio
  value : Ratio
  high : Ratio
  inclusive : Bool

/-- The reals that round to `p`. -/
def Parts.interval (p : Parts) : Interval :=
  let lowGap := if p.lowerCloser then 1 else 2
  let v := 4 * p.mantissa
  let (scale, den) : Nat × Nat :=
    if p.exponent ≥ 2 then (Nat.pow 2 (p.exponent - 2).toNat, 1)
    else (1, Nat.pow 2 (2 - p.exponent).toNat)
  ⟨⟨(v - lowGap) * scale, den⟩, ⟨v * scale, den⟩, ⟨(v + 2) * scale, den⟩, p.mantissa % 2 == 0⟩

/-- Whether `x` rounds to the interval's double. -/
def Interval.contains (i : Interval) (x : Ratio) : Bool :=
  if i.inclusive then i.low.le x && x.le i.high else i.low.lt x && x.lt i.high

/-- The decimal exponent `E` with `10^E ≤ v < 10^(E+1)`, found from an estimate by steps of
one. -/
def decimalExponent (v : Ratio) (estimate : Int) : Int :=
  let up := (List.range 4).foldl
    (fun e _ => if (scaled 1 (e + 1)).le v then e + 1 else e) estimate
  (List.range 4).foldl (fun e _ => if v.lt (scaled 1 e) then e - 1 else e) up

/-- The candidate at precision `n`: the grid point inside the interval nearest the value, if
any. -/
def candidate (i : Interval) (exp : Int) (n : Nat) : Option (Nat × Int) :=
  let p : Int := exp - n + 1
  -- floor of v / 10^p
  let lowD : Nat :=
    if p ≥ 0 then i.value.num / (i.value.den * Nat.pow 10 p.toNat)
    else i.value.num * Nat.pow 10 (-p).toNat / i.value.den
  let highD := lowD + 1
  let inLow := i.contains (scaled lowD p)
  let inHigh := i.contains (scaled highD p)
  if inLow && inHigh then
    let dl := (scaled lowD p).dist i.value
    let dh := (scaled highD p).dist i.value
    if dl.lt dh then some (lowD, p)
    else if dh.lt dl then some (highD, p)
    else if lowD % 2 == 0 then some (lowD, p) else some (highD, p)
  else if inLow then some (lowD, p)
  else if inHigh then some (highD, p)
  else none

/-- Removes trailing zero digits into the exponent. -/
def stripZeros (d : Nat) (p : Int) : Nat × Int :=
  (List.range 20).foldl (fun (d, p) _ => if d ≠ 0 ∧ d % 10 = 0 then (d / 10, p + 1) else (d, p))
    (d, p)

/-- The shortest digits `d` and exponent `p` with `d · 10^p` reading back as the magnitude `x`;
`d` has no trailing zero. -/
def shortest (x : Parts) : Nat × Int :=
  let i := x.interval
  let estimate : Int := ((bitLength x.mantissa : Int) - 1 + x.exponent) * 78913 / Int.pow 2 18
  let exp := decimalExponent i.value estimate
  let found := (List.range 17).findSome? fun k => candidate i exp (k + 1)
  match found with
  | some (d, p) => stripZeros d p
  | none => stripZeros (i.value.num / i.value.den) 0

/-- The decimal digits of a natural number. -/
def digitString (n : Nat) : String := String.ofList (Nat.toDigits 10 n)

/-- How a finite double is written in JSON text: the shortest digits that read back, positional
for decimal exponents from -5 to 15, scientific otherwise with an `e` and a signed exponent; an
integral positional value keeps `.0`. -/
def toJsonText (f : Float) : String :=
  let sign := if negative f then "-" else ""
  match parts? f with
  | none => sign ++ "0.0"
  | some x =>
    let (d, p) := shortest x
    let ds := digitString d
    let len : Int := ds.length
    let kk := len + p
    let body :=
      if 0 ≤ p ∧ kk ≤ 16 then ds ++ String.ofList (List.replicate p.toNat '0') ++ ".0"
      else if 0 < kk ∧ kk ≤ 16 then
        String.ofList (ds.toList.take kk.toNat) ++ "." ++ String.ofList (ds.toList.drop kk.toNat)
      else if -5 < kk ∧ kk ≤ 0 then
        "0." ++ String.ofList (List.replicate (-kk).toNat '0') ++ ds
      else
        let e := kk - 1
        let mant := match ds.toList with
          | [c] => String.ofList [c]
          | c :: rest => String.ofList (c :: '.' :: rest)
          | [] => "0"
        mant ++ "e" ++ (if e < 0 then "-" ++ digitString (-e).toNat else "+" ++ digitString e.toNat)
    sign ++ body

/-- How a double is written in plain decimal notation: the shortest digits that read back, never
with an exponent; `inf`, `-inf` and `NaN` for the values that have no digits. -/
def plainText (f : Float) : String :=
  let sign := if negative f then "-" else ""
  if f.isNaN then "NaN"
  else if f.isInf then sign ++ "inf"
  else match parts? f with
    | none => sign ++ "0"
    | some x =>
      let (d, p) := shortest x
      let ds := digitString d
      let kk : Int := (ds.length : Int) + p
      let body :=
        if 0 ≤ p then ds ++ String.ofList (List.replicate p.toNat '0')
        else if 0 < kk then
          String.ofList (ds.toList.take kk.toNat) ++ "." ++ String.ofList (ds.toList.drop kk.toNat)
        else "0." ++ String.ofList (List.replicate (-kk).toNat '0') ++ ds
      sign ++ body

end Float64
end PgBinding
