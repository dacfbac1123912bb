/-!
Blank characters: the Unicode White_Space property (U+0009 to U+000D, space, U+0085, no-break
space, the Ogham space mark, the typographic spaces U+2000 to U+200A, the line and paragraph
separators, the narrow no-break space, the medium mathematical space and the ideographic
space), and trimming and word splitting by it.
-/
namespace PgBinding
namespace Text

/-- The White_Space code point ranges, inclusive and sorted. -/
def blankRanges : List (Nat × Nat) := [
  (0x9, 0xD), (0x20, 0x20), (0x85, 0x85), (0xA0, 0xA0), (0x1680, 0x1680), (0x2000, 0x200A),
  (0x2028, 0x2029), (0x202F, 0x202F), (0x205F, 0x205F), (0x3000, 0x3000)]

/-- Whether a code point lies in one of a list of inclusive ranges. -/
def inRanges (ranges : List (Nat × Nat)) (c : Char) : Bool :=
  ranges.any fun (lo, hi) => lo ≤ c.toNat && c.toNat ≤ hi

/-- Whether a character is blank (White_Space). -/
def isBlank (c : Char) : Bool := inRanges blankRanges c

/-- The characters without their leading blanks. -/
def dropBlanks (cs : List Char) : List Char := cs.dropWhile isBlank

/-- A text without trailing blanks. -/
def trimEnd (s : String) : String := String.ofList (dropBlanks s.toList.reverse).reverse

/-- A text without leading or trailing blanks. -/
def trim (s : String) : String := trimEnd (String.ofList (dropBlanks s.toList))

/-- The words of `cs`, given the word read so far (reversed): the maximal runs of non-blank
characters, in order. -/
def wordsFrom : List Char → List Char → List (List Char)
  | cur, [] => if cur.isEmpty then [] else [cur.reverse]
  | cur, c :: rest =>
    if isBlank c then
      if cur.isEmpty then wordsFrom [] rest else cur.reverse :: wordsFrom [] rest
    else wordsFrom (c :: cur) rest

/-- The words of a list of characters: the maximal runs of non-blank characters, in order. -/
def wordsOf (cs : List Char) : List (List Char) := wordsFrom [] cs

/-- The words of a text: the maximal runs of non-blank characters. -/
def words (s : String) : List String := (wordsOf s.toList).map String.ofList

end Text
end PgBinding
