/-!
How alike two words are, by the Jaro similarity.

Two characters match when they are equal and no farther apart than half the longer word's
length, less one; each character of the second word matches at most one of the first, taken in
order. With `m` matches, of which `t` pairs are out of order, the similarity is the mean of
`m / |a|`, `m / |b|` and `(m - t) / m`, computed in double precision; it is 1 for two empty
words and 0 when nothing matches.
-/
namespace PgBinding
namespace Text

/-- Which characters of `a` and of `b` match, each character of `a` taking the first unmatched
equal character of `b` within `range` of its own position. -/
def jaroMatches (a b : List Char) (range : Nat) : List Bool × Array Bool :=
  a.zipIdx.foldl (fun (acc : List Bool × Array Bool) (c, i) =>
    let (aFlags, bFlags) := acc
    let lo := i - range
    let hi := min b.length (i + range + 1)
    match (List.range' lo (hi - lo)).find? (fun j => b[j]? == some c && !bFlags.getD j true) with
    | some j => (aFlags ++ [true], bFlags.set! j true)
    | none => (aFlags ++ [false], bFlags))
    ([], Array.replicate b.length false)

/-- The Jaro similarity of two words. -/
def jaro (a b : List Char) : Float :=
  if a.isEmpty && b.isEmpty then 1.0
  else if a.isEmpty || b.isEmpty then 0.0
  else
    let range := max a.length b.length / 2 - 1
    let (aFlags, bFlags) := jaroMatches a b range
    let aMatched := (a.zip aFlags).filterMap fun (c, f) => if f then some c else none
    let bMatched := (b.zip bFlags.toList).filterMap fun (c, f) => if f then some c else none
    let m := aMatched.length
    let t := ((aMatched.zip bMatched).filter fun (x, y) => x != y).length / 2
    if m = 0 then 0.0
    else (m.toFloat / a.length.toFloat + m.toFloat / b.length.toFloat +
      (m - t).toFloat / m.toFloat) / 3.0

end Text
end PgBinding
