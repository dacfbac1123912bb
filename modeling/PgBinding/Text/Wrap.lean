import PgBinding.Text.LineBreak
import PgBinding.Text.Escape
import PgBinding.Text.Alnum
/-!
Filling text to a width, with a text in front of the first line and another in front of every
other line.

Each line of the text is filled on its own. It is cut into words where the line breaking
algorithm allows a break between shown characters, except right after a hyphen; an escape
sequence at a break goes with the word after it. A word is also split after a hyphen that stands
between two letters or digits, and a word wider than a line is cut into pieces that fit. The
words are then laid out first fit: a word goes on the line being filled while it fits there, and
starts the next line otherwise.
-/
namespace PgBinding
namespace Text

/-- A word of a line: its characters and the number of spaces after it. -/
structure Word where
  chars : List Char
  spaces : Nat
  deriving Repr, DecidableEq

/-- The columns a word takes, its spaces left out. -/
def Word.width (w : Word) : Nat := textWidth w.chars

/-- A word from a piece of a line: the spaces at its end are set apart. -/
def Word.ofChars (cs : List Char) : Word :=
  let spaces := (cs.reverse.takeWhile (· == ' ')).length
  ⟨cs.take (cs.length - spaces), spaces⟩

/-- The parts of `xs` between consecutive cut positions, in order, and the rest after the last
cut when there is any. -/
def cutAt {α : Type} (xs : List α) : Nat → List Nat → List (List α)
  | start, [] => if start < xs.length then [xs.drop start] else []
  | start, p :: ps => ((xs.drop start).take (p - start)) :: cutAt xs p ps

/-- The position among `ps` of the first piece that has `k` shown characters before it. -/
def afterShown : List Piece → Nat → Nat
  | _, 0 => 0
  | [], _ => 0
  | .shown _ :: rest, k + 1 => afterShown rest k + 1
  | .escape _ :: rest, k + 1 => afterShown rest (k + 1) + 1

/-- The words of a line, cut where a break between its shown characters is allowed but not right
after a hyphen or a soft hyphen. The end of the line is the last break, except that a break
suppressed at the end gives way to the break before it. -/
def lineWords (cs : List Char) : List Word :=
  let ps := pieces cs
  let shown := stripEscapes cs
  let keep (i : Nat) : Bool :=
    i == 0 || match shown[i - 1]? with
      | some c => !(c == '-' || c.toNat == 0xAD)
      | none => true
  let cuts := ((breakOpportunities shown).filter keep).dropLast
  (cutAt ps 0 (cuts.map (afterShown ps))).map fun p => Word.ofChars (p.flatMap Piece.chars)

/-- The positions after each hyphen of a word that stands between two letters or digits. -/
def hyphenPoints (cs : List Char) : List Nat :=
  (List.range cs.length).filterMap fun i =>
    match cs[i]?, (cs[i - 1]?), cs[i + 1]? with
    | some '-', some p, some n =>
      if i ≥ 1 && isAlphanumeric p && isAlphanumeric n then some (i + 1) else none
    | _, _, _ => none

/-- A word split after its inner hyphens; the last piece keeps the spaces. -/
def Word.splitHyphens (w : Word) : List Word :=
  let parts := cutAt w.chars 0 (hyphenPoints w.chars)
  match parts.reverse with
  | [] => [w]
  | last :: earlier => (earlier.reverse.map (⟨·, 0⟩)) ++ [⟨last, w.spaces⟩]

/-- Greedy chunks of a word's pieces of at most `limit` columns each; a chunk holds at least one
shown character, and an escape sequence stays with the chunk before it. `current` is the chunk
being filled, reversed, and `width` its columns. -/
def chunks (limit : Nat) : List Piece → List Piece → Nat → List (List Piece)
  | [], current, _ => if current.isEmpty then [] else [current.reverse]
  | .escape e :: rest, current, width => chunks limit rest (.escape e :: current) width
  | .shown c :: rest, current, width =>
    if width > 0 && width + WidthTable.unicode17.charWidth c > limit then
      current.reverse :: chunks limit rest [.shown c] (WidthTable.unicode17.charWidth c)
    else chunks limit rest (.shown c :: current) (width + WidthTable.unicode17.charWidth c)

/-- A word wider than `limit` cut into pieces that fit; the last piece keeps the spaces. -/
def Word.breakApart (limit : Nat) (w : Word) : List Word :=
  if w.width ≤ limit then [w]
  else match (chunks limit (pieces w.chars) [] 0).reverse with
    | [] => [w]
    | last :: earlier =>
      (earlier.reverse.map fun p => ⟨p.flatMap Piece.chars, 0⟩) ++
        [⟨last.flatMap Piece.chars, w.spaces⟩]

/-- First fit: the lines `lines` are filled, `current` (reversed) is being filled and takes
`used` columns with its spaces. The next word starts a new line when the line being filled holds
a word already and the word does not fit beside it; the first line has `first` columns and every
other line `rest`. -/
def firstFit (first rest : Nat) :
    List (List Word) → List Word → Nat → List Word → List (List Word)
  | lines, current, _, [] => lines ++ [current.reverse]
  | lines, current, used, w :: ws =>
    let limit := if lines.isEmpty then first else rest
    if used + w.width > limit && !current.isEmpty then
      firstFit first rest (lines ++ [current.reverse]) [w] (w.width + w.spaces) ws
    else firstFit first rest lines (w :: current) (used + w.width + w.spaces) ws

/-- The text of a line made of some words: their characters with the spaces between them. -/
def Word.join : List Word → List Char
  | [] => []
  | [w] => w.chars
  | w :: rest => w.chars ++ List.replicate w.spaces ' ' ++ Word.join rest

/-- Where a filled text goes: the columns of a line, and the texts in front of the first line and
of every other line. -/
structure Layout where
  width : Nat
  first : String
  rest : String

/-- The filled lines of one line of text, given the lines already filled before it. A line
shorter than the width in bytes, with nothing to go in front of it, is kept as it is, its
trailing spaces dropped. Otherwise the words are broken to fit the other lines, and an empty word
goes first when the first line has a text in front of it, so that the first word too may move to
the next line. -/
def Layout.fillLine (l : Layout) (done : List String) (line : String) : List String :=
  let indent (lines : List String) := if lines.isEmpty then l.first else l.rest
  if line.utf8ByteSize < l.width && (indent done).isEmpty then
    done ++ [String.ofList (line.toList.reverse.dropWhile (· == ' ')).reverse]
  else
    let firstWidth := l.width - textWidth l.first.toList
    let restWidth := l.width - textWidth l.rest.toList
    let words := ((lineWords line.toList).flatMap Word.splitHyphens).flatMap
      (Word.breakApart restWidth)
    let words := if l.first.isEmpty then words else ⟨[], 0⟩ :: words
    (firstFit firstWidth restWidth [] [] 0 words).foldl (fun acc ws =>
      if ws.isEmpty then acc ++ [""] else acc ++ [indent acc ++ String.ofList (Word.join ws)]) done

/-- A text filled line by line. -/
def Layout.fill (l : Layout) (text : String) : String :=
  "\n".intercalate ((text.splitOn "\n").foldl l.fillLine [])

end Text
end PgBinding
