import PgBinding.Text.Wrap
import PgBinding.Text.Utf8
import PgBinding.Text.Width.Unicode15
/-!
How the command line tool shows an error: a report of its code, its message and causes, the part
of the query it points at, and advice.

A report is drawn for a screen of 80 columns with box-drawing characters and no colour:

* the code, then a blank line;
* the message after `  × `, filled to 78 columns;
* each cause after `  ├─▶ `, the last after `  ╰─▶ `;
* when the error marks a span of the text it was read from, a snippet: a header with the text's
  name and the span's line and byte column, the line of the span with the lines before and after
  it, each after its number, the span underlined beneath its line, and the label of the span
  hanging from the underline;
* the advice after `  help: `.

Lines end at a line feed, a carriage return and line feed, or (for the span's line and column
only) a lone carriage return. Tabs in the shown lines go to the next multiple of four columns.
-/
namespace PgBinding
namespace Cli

/-- A span of a text that an error points at, with the label drawn under it. -/
structure Marking where
  /-- The name the text is shown under. -/
  name : String
  source : String
  /-- Byte offset of the span. -/
  offset : Nat
  /-- Byte length of the span. -/
  length : Nat
  label : String
  deriving Repr, DecidableEq

/-- An error as it is reported. -/
structure Diagnostic where
  code : String
  message : String
  /-- The chain of underlying errors, outermost first. -/
  causes : List String
  marking : Option Marking
  help : Option String
  deriving Repr, DecidableEq

/-- The part of a text around a span: where it starts and ends, and the zero-based line and byte
column it starts at. -/
structure Surroundings where
  start : Nat
  stop : Nat
  line : Nat
  column : Nat
  deriving Repr, DecidableEq

/-- What the walk over a text has seen so far. -/
structure Walk where
  offset : Nat := 0
  line : Nat := 0
  column : Nat := 0
  /-- Starts of the lines kept before the span, oldest first. -/
  starts : List Nat := []
  lineStart : Nat := 0
  linesAfter : Nat := 0
  pastSpan : Bool := false
  newlineAfter : Bool := false
  deriving Repr, DecidableEq

/-- One byte of the walk, the second byte of a carriage return and line feed pair taken with
the first when `pair`; true when the walk stops after it. -/
def Walk.step (spanOffset spanLength before after : Nat) (w : Walk) (b : UInt8) (pair : Bool) :
    Walk × Bool :=
  let w := if pair then { w with offset := w.offset + 1 } else w
  let (w, stopped) :=
    if b == 13 || b == 10 then
      if w.offset < spanOffset then
        let starts := w.starts ++ [w.lineStart]
        let w := if starts.length > before then
            { w with starts := starts.drop 1, line := w.line + 1 }
          else { w with starts }
        ({ w with column := 0, lineStart := w.offset + 1 }, false)
      else if w.offset ≥ spanOffset + (spanLength - 1) && w.pastSpan then
        let w := if w.newlineAfter then { w with linesAfter := w.linesAfter + 1 }
          else { w with newlineAfter := true }
        let w := { w with column := 0 }
        if w.linesAfter ≥ after then ({ w with offset := w.offset + 1 }, true)
        else ({ w with lineStart := w.offset + 1 }, false)
      else ({ w with lineStart := w.offset + 1 }, false)
    else if w.offset < spanOffset then ({ w with column := w.column + 1 }, false)
    else (w, false)
  if stopped then (w, true)
  else if w.offset ≥ spanOffset + spanLength - 1 then
    let w := { w with pastSpan := true }
    if w.linesAfter ≥ after then ({ w with offset := w.offset + 1 }, true)
    else ({ w with offset := w.offset + 1 }, false)
  else ({ w with offset := w.offset + 1 }, false)

/-- Walks the bytes of a text up to the end of the span and `after` more lines, keeping the
starts of the last `before` lines before it. It stops with the offset just past the last byte
taken. -/
def Walk.run (spanOffset spanLength before after : Nat) : Walk → List UInt8 → Walk
  | w, [] => w
  | w, 13 :: 10 :: rest =>
    match w.step spanOffset spanLength before after 13 true with
    | (w, true) => w
    | (w, false) => Walk.run spanOffset spanLength before after w rest
  | w, b :: rest =>
    match w.step spanOffset spanLength before after b false with
    | (w, true) => w
    | (w, false) => Walk.run spanOffset spanLength before after w rest

/-- The part of `text` holding a span with `before` lines before it and `after` lines after it;
none when the span lies past the end of the text. With no line before, the part starts at the
span itself. -/
def surroundings (text : List UInt8) (offset length before after : Nat) : Option Surroundings :=
  let w := Walk.run offset length before after {} text
  if w.offset ≥ offset + length - 1 then
    let start := w.starts.head?.getD (if before = 0 then offset else 0)
    some ⟨start, w.offset, w.line, if before = 0 then w.column else 0⟩
  else none

/-- A line of a snippet: its one-based number, its byte offset and length with its line end, and
its text without the line end. -/
structure SourceLine where
  number : Nat
  offset : Nat
  length : Nat
  text : List Char
  deriving Repr, DecidableEq

/-- What the cutting of a snippet into lines has seen so far. -/
structure Cutting where
  number : Nat
  offset : Nat
  lineOffset : Nat
  /-- The text of the current line, reversed. -/
  text : List Char := []
  done : List SourceLine := []

/-- Takes one character of a line, or a line end: `ending` is the line end's byte length, 0 for
a character of the text. `last` tells whether nothing follows; the last line then counts as a
new one, unless the text ends with a line end or a carriage return (`closing`). -/
def Cutting.take (c : Cutting) (ch : Char) (ending : Nat) (last closing : Bool) : Cutting :=
  let c := if ending = 0 then { c with offset := c.offset + ch.utf8Size, text := ch :: c.text }
    else { c with offset := c.offset + ending, number := c.number + 1 }
  let c := if last && ending = 0 && !closing then { c with number := c.number + 1 } else c
  if ending > 0 || last then
    { c with
      done := c.done ++ [⟨c.number, c.lineOffset, c.offset - c.lineOffset, c.text.reverse⟩],
      text := [], lineOffset := c.offset }
  else c

/-- Cuts characters into lines at line feeds and at carriage return and line feed pairs; a lone
carriage return stays in the text. -/
def Cutting.run : Cutting → List Char → Cutting
  | c, [] => c
  | c, '\r' :: '\n' :: rest => Cutting.run (c.take '\n' 2 rest.isEmpty true) rest
  | c, '\n' :: rest => Cutting.run (c.take '\n' 1 rest.isEmpty true) rest
  | c, '\r' :: rest => Cutting.run (c.take '\r' 0 rest.isEmpty true) rest
  | c, ch :: rest => Cutting.run (c.take ch 0 rest.isEmpty false) rest

/-- The lines of the text around a span, one line before and after it. -/
def snippetLines (text : List UInt8) (offset length : Nat) : List SourceLine :=
  match surroundings text offset length 1 1 with
  | some s =>
    let part := Utf8.lossyChars ((text.drop s.start).take (s.stop - s.start))
    (Cutting.run { number := s.line, offset := s.start, lineOffset := s.start } part).done
  | none => []

/-- The columns each character of a line takes: a tab reaches the next multiple of four columns,
an escape sequence up to its closing `m` takes none. -/
def visualWidths (cs : List Char) : List Nat :=
  let step (acc : Nat × Bool × List Nat) (c : Char) : Nat × Bool × List Nat :=
    let (column, escaped, ws) := acc
    let (w, escaped) :=
      if escaped then (0, c != 'm')
      else if c = '\t' then (4 - column % 4, false)
      else if c = '\x1b' then (0, true)
      else (Text.WidthTable.unicode15.charWidth c, false)
    (column + w, escaped, w :: ws)
  let (_, _, ws) := cs.foldl step (0, false, [])
  ws.reverse

/-- A line's text as drawn, tabs turned into spaces. -/
def drawText (cs : List Char) : String :=
  String.join ((cs.zip (visualWidths cs)).map fun (c, w) =>
    if c = '\t' then String.ofList (List.replicate w ' ') else String.singleton c)

/-- The column of a byte offset into a line. The offset is moved back to a character boundary
for the start of a span and forward for its end; an offset past the text is one column past it. -/
def SourceLine.columnOf (l : SourceLine) (offset : Nat) (start : Bool) : Nat :=
  let index := offset - l.offset
  let ends := (l.text.map Char.utf8Size).foldl (fun acc n => acc ++ [acc.getLast?.getD 0 + n]) []
  let ws := visualWidths l.text
  let textBytes := ends.getLast?.getD 0
  if index > textBytes then ws.foldr (· + ·) 0 + 1
  else
    let keep := (ends.zip (0 :: ends)).filter fun (e, s) => if start then e ≤ index else s < index
    (ws.take keep.length).foldr (· + ·) 0

/-- Whether a span lies within a line. -/
def SourceLine.holds (l : SourceLine) (offset length : Nat) : Bool :=
  l.offset ≤ offset && offset + length ≤ l.offset + l.length

/-- Whether a span shows on a line: it starts, passes through or ends on it. An empty span counts
as one byte long. -/
def SourceLine.shows (l : SourceLine) (offset length : Nat) : Bool :=
  let len := if length = 0 then 1 else length
  let lineEnd := l.offset + l.length
  (l.offset ≤ offset && offset < lineEnd) ||
  (offset < l.offset && offset + len > lineEnd) ||
  (offset + len > l.offset && offset + len ≤ lineEnd)

/-- The lines of a label: its pieces between line feeds, empty ones included. -/
def labelLines (label : String) : List String := label.splitOn "\n"

/-- `n` spaces. -/
def blanks (n : Nat) : String := String.ofList (List.replicate n ' ')

/-- The rows under a line that mark a span on it: the underline, then the label hanging from its
middle. `gutter` is what starts each row. -/
def markRows (gutter : String) (l : SourceLine) (m : Marking) : List String :=
  let start := l.columnOf m.offset true
  let stop := if m.length = 0 then start + 1 else max (l.columnOf (m.offset + m.length) false) (start + 1)
  let middle := (start + stop) / 2
  let rule (n : Nat) := String.ofList (List.replicate n '─')
  let pointer := if m.length = 0 then "▲" else "┬"
  let underline := gutter ++ blanks start ++ rule (middle - start) ++ pointer ++ rule (stop - middle - 1)
  let hang := gutter ++ blanks middle
  let labels := match labelLines m.label with
    | [one] => [hang ++ "╰── " ++ one]
    | first :: rest => (hang ++ "╰─┤ " ++ first) :: rest.map fun r => hang ++ "  │ " ++ r
    | [] => []
  underline :: labels

/-- The snippet of a marked span: header, numbered lines with the span marked under its line, and
footer. -/
def Marking.snippet (m : Marking) : String :=
  let bytes := Utf8.encode m.source
  let lines := snippetLines bytes m.offset m.length
  let width := (toString ((lines.getLast?.map (·.number)).getD 0)).length
  let place := surroundings bytes m.offset m.length 0 0
  let (line, column) := match place with
    | some s => (s.line, s.column)
    | none => (0, 0)
  let header := blanks (width + 2) ++ "╭─[" ++ m.name ++ ":" ++ toString (line + 1) ++ ":" ++
    toString (column + 1) ++ "]"
  let gutter := " " ++ blanks width ++ " · "
  let body := lines.flatMap fun l =>
    let number := toString l.number
    let row := " " ++ blanks (width - number.length) ++ number ++ " │ " ++ drawText l.text
    if l.shows m.offset m.length && l.holds m.offset m.length then row :: markRows gutter l m
    else [row]
  String.join ((header :: body ++ [blanks (width + 2) ++ "╰────"]).map (· ++ "\n"))

/-- The width reports are filled to. -/
def reportWidth : Nat := 78

/-- The text of a report, ending with a line end. -/
def Diagnostic.render (d : Diagnostic) : String :=
  let fill (first rest : String) (text : String) : String :=
    Text.Layout.fill ⟨reportWidth, first, rest⟩ text ++ "\n"
  let count := d.causes.length
  let causes := d.causes.zipIdx.map fun (c, i) =>
    if i + 1 = count then fill "  ╰─▶ " "      " c else fill "  ├─▶ " "  │   " c
  let snippet := match d.marking with
    | some m => m.snippet
    | none => ""
  let help := match d.help with
    | some h => fill "  help: " "        " h
    | none => ""
  d.code ++ "\n\n" ++ fill "  × " "  │ " d.message ++ String.join causes ++ snippet ++ help

end Cli
end PgBinding
