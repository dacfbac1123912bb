import PgBinding.Toml.Document
/-!
Errors about a TOML document, and how they are shown: the position as a line and a column, the
line itself, and carets under the offending bytes.
-/
namespace PgBinding
namespace Toml

/-- An error about a document: what is wrong, and where, when it is known. -/
structure Error where
  message : String
  span : Option Span
  deriving Repr, DecidableEq

/-- The zero-based line and column of byte `index`. The column counts the characters from the
start of the line up to and including the byte at `index`, less one; when those bytes are not
whole characters it counts bytes. An index past the end is counted past the last byte. -/
def position (input : Bytes) (index : Nat) : Nat × Nat :=
  if input.isEmpty then (0, index)
  else
    let safe := min index (input.length - 1)
    let past := index - safe
    let before := input.take safe
    let lineStart := before.length - (before.reverse.takeWhile (· != 0x0A)).length
    let line := (input.take lineStart).count 0x0A
    let column :=
      match Utf8.decodeChars ((input.drop lineStart).take (safe + 1 - lineStart)) with
      | .ok cs => cs.length - 1
      | .error _ => safe - lineStart
    (line, column + past)

/-- The lines of a text, split at line feeds. -/
def lines (s : String) : List String := s.splitOn "\n"

/-- Spaces. -/
def spaces (n : Nat) : String := String.ofList (List.replicate n ' ')

/-- How an error is shown for a document: a header with the line and column, the line with its
number in a gutter, carets under the span (at least one, at most to the line's end), and the
message. -/
def Error.render (e : Error) (source : String) : String :=
  match e.span with
  | none => e.message ++ "\n"
  | some sp =>
    let input := Utf8.encode source
    let (line, column) := position input sp.start
    let lineNum := toString (line + 1)
    let gutter := lineNum.length
    let content := (lines source).getD line ""
    let highlight := min (sp.stop - sp.start) (content.utf8ByteSize - column)
    "TOML parse error at line " ++ lineNum ++ ", column " ++ toString (column + 1) ++ "\n" ++
    spaces (gutter + 1) ++ "|\n" ++
    lineNum ++ " | " ++ content ++ "\n" ++
    spaces (gutter + 1) ++ "|" ++ spaces (column + 1) ++ "^" ++
      String.ofList (List.replicate (highlight - 1) '^') ++ "\n" ++
    e.message ++ "\n"

end Toml
end PgBinding
