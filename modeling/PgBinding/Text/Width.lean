import PgBinding.Text.Blank
/-!
How many columns a character takes on a terminal.

Control characters take none. So do the characters that never show on their own: the default
ignorable characters (the soft hyphen among them), the marks that extend a grapheme cluster and
the vowel signs made of two of them, the Hangul medial vowels and final consonants, the
characters that attach to what follows them but for the prepended concatenation marks (five of
which take none all the same), and the Devanagari caret. The Hangul initial filler and the
Tifinagh joiner are the exceptions and take their usual width. The Khmer sign beyyal takes
three columns, East Asian wide and fullwidth characters two, and every other character one.

Which characters fall in each class depends on the version of the Unicode data: a table holds
the two classes of one version.
-/
namespace PgBinding
namespace Text

/-- The characters that take no column beyond the controls, and those that take two, of one
version of the Unicode data. -/
structure WidthTable where
  zero : List (Nat × Nat)
  wide : List (Nat × Nat)

/-- The number of columns a character takes. -/
def WidthTable.charWidth (t : WidthTable) (c : Char) : Nat :=
  let n := c.toNat
  if n < 0x20 || (0x7F ≤ n && n < 0xA0) then 0
  else if n < 0x7F then 1
  else if inRanges t.zero c then 0
  else if n = 0x17D8 then 3
  else if inRanges t.wide c then 2
  else 1

/-- The number of columns a text takes, character by character. -/
def WidthTable.displayWidth (t : WidthTable) (cs : List Char) : Nat :=
  (cs.map t.charWidth).foldr (· + ·) 0

/-- Printable ASCII characters take one column whatever the table. -/
theorem WidthTable.charWidth_ascii (t : WidthTable) (c : Char) (lo : 0x20 ≤ c.toNat)
    (hi : c.toNat < 0x7F) : t.charWidth c = 1 := by
  unfold WidthTable.charWidth
  have h1 : ¬(c.toNat < 0x20 || (0x7F ≤ c.toNat && c.toNat < 0xA0)) = true := by
    simp only [Bool.or_eq_true, decide_eq_true_eq, Bool.and_eq_true]; omega
  simp only [h1, hi, if_true]
  rfl

end Text
end PgBinding
