import PgBinding.Text.Utf8
import PgBinding.Text.Blank
import PgBinding.Text.Alnum
import PgBinding.Text.Lower
/-!
The toy grammar of the stand-in engine.

Statements are the `;`-separated segments of the input that hold a non-blank character. A
statement whose text, without trailing blanks and lower-cased in ASCII, is `from` or ends in
` from` is a syntax error. Comments are block comments (from `/*` through the next `*/`, or to
the end) and line comments (from `--` up to the next newline, or to the end). Normalizing drops
comments (a block comment leaves a space) and collapses blanks; tokens are the runs of
alphanumeric characters and underscores, and every other non-blank character alone.

Offsets are in bytes of the UTF-8 text.
-/
namespace PgBinding
namespace Toy

open Text

/-- The length of characters in UTF-8 bytes. -/
def byteLength (cs : List Char) : Nat := (cs.map Char.utf8Size).foldr (· + ·) 0

/-- The non-blank segments of `;`-separated parts starting at byte offset `start`: their
offsets and characters. -/
def segmentsFrom (start : Nat) : List (List Char) → List (Nat × List Char)
  | [] => []
  | part :: rest =>
    let tail := segmentsFrom (start + byteLength part + 1) rest
    if part.all isBlank then tail else (start, part) :: tail

/-- The statements of an input: each non-blank `;`-separated segment with its offset. -/
def statements (sql : String) : List (Nat × List Char) := segmentsFrom 0 (sql.toList.splitOn ';')

/-- The byte span `(location, length)` of each statement. -/
def statementSpans (sql : String) : List (Nat × Nat) :=
  (statements sql).map fun (loc, cs) => (loc, byteLength cs)

/-- Whether a statement ends in a dangling `from`. -/
def danglingFrom (cs : List Char) : Bool :=
  let t := (dropBlanks cs.reverse).reverse.map Char.toLower
  t == "from".toList || " from".toList.isSuffixOf t

/-- The one-based cursor just past the first statement that ends in a dangling `from`. -/
def syntaxErrorCursor (sql : String) : Option Nat :=
  ((statements sql).find? fun (_, cs) => danglingFrom cs).map fun (loc, cs) =>
    loc + byteLength cs + 1

/-- Where comment stripping is: in code, in a block comment (`star`: the last character read
was a star that may close it), or in a line comment. -/
inductive StripMode where
  | code
  | block (star : Bool)
  | line

/-- Drops the comments of `cs`: a block comment becomes a space, a line comment goes up to its
newline. -/
def stripFrom : StripMode → List Char → List Char
  | .code, '/' :: '*' :: rest => ' ' :: stripFrom (.block false) rest
  | .code, '-' :: '-' :: rest => stripFrom .line rest
  | .code, c :: rest => c :: stripFrom .code rest
  | .block star, c :: rest =>
    if star && c = '/' then stripFrom .code rest else stripFrom (.block (c = '*')) rest
  | .line, c :: rest => if c = '\n' then c :: stripFrom .code rest else stripFrom .line rest
  | _, [] => []

/-- An input without comments, its words joined by single spaces. -/
def normalize (sql : String) : String :=
  " ".intercalate ((wordsOf (stripFrom .code sql.toList)).map String.ofList)

/-- The 64-bit FNV-1a hash of bytes. -/
def fnv1a (bs : Bytes) : UInt64 :=
  bs.foldl (fun h b => (h ^^^ b.toUInt64) * 0x100000001b3) 0xcbf29ce484222325

/-- Whether a character continues a word token. -/
def isWordChar (c : Char) : Bool := isAlphanumeric c || c = '_'

/-- A token of the toy scanner: its byte range and whether it is a reserved keyword. -/
structure Token where
  start : Nat
  stop : Nat
  reserved : Bool
  deriving Repr, DecidableEq

/-- The reserved keywords of the toy grammar. -/
def reservedWords : List String := ["select", "from", "where"]

/-- A token over `cs` from byte `start`. -/
def Token.ofChars (start : Nat) (cs : List Char) : Token :=
  ⟨start, start + byteLength cs, reservedWords.contains (String.ofList (cs.map Char.toLower))⟩

/-- The tokens of `cs` from byte offset `pos`, with the word being read so far (its start and
its characters, reversed). -/
def tokensFrom : Nat → Option (Nat × List Char) → List Char → List Token
  | _, none, [] => []
  | _, some (s, w), [] => [Token.ofChars s w.reverse]
  | pos, word, c :: rest =>
    let next := pos + c.utf8Size
    if isWordChar c then
      match word with
      | some (s, w) => tokensFrom next (some (s, c :: w)) rest
      | none => tokensFrom next (some (pos, [c])) rest
    else
      let done := match word with
        | some (s, w) => [Token.ofChars s w.reverse]
        | none => []
      let single := if isBlank c then [] else [Token.ofChars pos [c]]
      done ++ single ++ tokensFrom next none rest

/-- The tokens of an input. -/
def tokens (sql : String) : List Token := tokensFrom 0 none sql.toList

/-- A comment found in an input: its offset, the newlines right before and right after it, and
its text with its delimiters. -/
structure Comment where
  location : Nat
  newlinesBefore : Nat
  newlinesAfter : Nat
  text : String
  deriving Repr, DecidableEq

/-- Where the comment finder is: in code, or in a comment begun at `start` after `before`
newlines, with its characters so far (reversed); a block comment also knows whether its last
character was a star, and the star of its opening may close it. -/
inductive FindMode where
  | code
  | block (start before : Nat) (text : List Char) (star : Bool)
  | line (start before : Nat) (text : List Char)

/-- The newlines at the front of `cs`. -/
def leadingNewlines (cs : List Char) : Nat := (cs.takeWhile (· = '\n')).length

/-- The comments of `cs` from byte offset `pos`, `newlines` being the newlines right before it. -/
def commentsFrom : FindMode → Nat → Nat → List Char → List Comment
  | .code, pos, nl, '/' :: '*' :: rest => commentsFrom (.block pos nl ['*', '/'] true) (pos + 2) 0 rest
  | .code, pos, nl, '-' :: '-' :: rest => commentsFrom (.line pos nl ['-', '-']) (pos + 2) 0 rest
  | .code, pos, nl, c :: rest =>
    commentsFrom .code (pos + c.utf8Size) (if c = '\n' then nl + 1 else 0) rest
  | .block s b t star, pos, _, c :: rest =>
    if star && c = '/' then
      ⟨s, b, leadingNewlines rest, String.ofList (c :: t).reverse⟩ :: commentsFrom .code (pos + 1) 0 rest
    else commentsFrom (.block s b (c :: t) (c = '*')) (pos + c.utf8Size) 0 rest
  | .line s b t, pos, _, c :: rest =>
    if c = '\n' then
      ⟨s, b, leadingNewlines (c :: rest), String.ofList t.reverse⟩ ::
        commentsFrom .code (pos + 1) 1 rest
    else commentsFrom (.line s b (c :: t)) (pos + c.utf8Size) 0 rest
  | .code, _, _, [] => []
  | .block s b t _, _, _, [] => [⟨s, b, 0, String.ofList t.reverse⟩]
  | .line s b t, _, _, [] => [⟨s, b, 0, String.ofList t.reverse⟩]

/-- The comments of an input. -/
def comments (sql : String) : List Comment := commentsFrom .code 0 0 sql.toList

end Toy
end PgBinding
