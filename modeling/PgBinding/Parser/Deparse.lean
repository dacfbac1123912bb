import PgBinding.Parser.Run
import PgBinding.Materialize
import PgBinding.Options
import PgBinding.Tree.Parsed
/-!
Turning parse trees back into text, and the comments that can be put back into it.

A tree is handed over encoded, as null data when its encoding is empty. Deparse options and
comments cross the boundary as C ints: every comment text is checked for NUL first, then each
comment's numbers in turn, then the indentation and the line length; a value above the largest
C int is refused before anything is dispatched.
-/
namespace PgBinding
namespace Parser

open Materialize

variable {σ : Type}

/-- A comment found in an input, or to be put back into a deparsed one: the byte offset it is
attached to, the newlines around it, and its text with its delimiters. -/
structure DeparseComment where
  matchLocation : UInt32 := 0
  newlinesBefore : UInt32 := 0
  newlinesAfter : UInt32 := 0
  text : String := ""
  deriving Repr, DecidableEq

/-- The largest C int. -/
def cIntMax : Nat := 2147483647

/-- A value that must fit a C int, named `field` if it does not. -/
def cIntField (field : String) (v : UInt32) : Except PreconditionError Int32 :=
  if v.toNat > cIntMax then .error (.valueTooLarge field v.toNat) else .ok (Int32.ofNat v.toNat)

/-- The C string of a comment text, which must hold no NUL. -/
def commentText (c : DeparseComment) : Except PreconditionError Bytes :=
  let bs := Utf8.encode c.text
  match bs.idxOf? 0 with
  | some i => .error (.interiorNul i)
  | none => .ok bs

/-- The native record of a comment with its C string. -/
def commentRecord (c : DeparseComment) (text : Bytes) : Except PreconditionError CommentRecord := do
  let loc ← cIntField "match_location" c.matchLocation
  let before ← cIntField "newlines_before" c.newlinesBefore
  let after ← cIntField "newlines_after" c.newlinesAfter
  pure { matchLocation := loc, newlinesBefore := before, newlinesAfter := after, text := some text }

/-- Deparse options and comments as they cross the boundary. -/
def nativeOptions (o : DeparseOptions) (comments : List DeparseComment) :
    Except PreconditionError NativeDeparseOptions := do
  let texts ← comments.mapM commentText
  let records ← (comments.zip texts).mapM fun (c, t) => commentRecord c t
  let indent ← cIntField "indent_size" o.indentSize
  let width ← cIntField "max_line_length" o.maxLineLength
  pure { comments := if records.isEmpty then none else some records
         prettyPrint := o.prettyPrint
         indentSize := indent
         maxLineLength := width
         trailingNewline := o.trailingNewline
         commasStartOfLine := o.commasStartOfLine }

/-- Deparses an encoded parse tree. -/
def deparseBytes (e : Engine σ) (tree : Bytes) : Call σ (Except Error String) :=
  run e .deparse (e.deparse (Payload.ofBytes tree)) (·.error) fun r =>
    utf8String "deparsed query" r.text

/-- Deparses a parse tree. -/
def deparse (e : Engine σ) (t : Tree.ParseTree) : Call σ (Except Error String) :=
  deparseBytes e t.encode

/-- Deparses a parse tree with presentation options, putting `comments` back in. -/
def deparseWithComments (e : Engine σ) (t : Tree.ParseTree) (o : DeparseOptions)
    (comments : List DeparseComment) : Call σ (Except Error String) :=
  let tree := Payload.ofBytes t.encode
  match nativeOptions o comments with
  | .error p => pure (.error (.precondition p))
  | .ok native =>
    run e .deparse (e.deparseWithOptions tree native) (·.error) fun r =>
      utf8String "deparsed query" r.text

/-- Deparses a parse tree with presentation options. -/
def deparseWithOptions (e : Engine σ) (t : Tree.ParseTree) (o : DeparseOptions) :
    Call σ (Except Error String) :=
  deparseWithComments e t o []

/-- Copies a native comment record: numbers must not be negative, the text must be UTF-8. -/
def copyComment (r : CommentRecord) : Except Error DeparseComment := do
  let loc ← nonNegative "comment location" r.matchLocation
  let before ← nonNegative "comment newlines" r.newlinesBefore
  let after ← nonNegative "comment newlines" r.newlinesAfter
  let text ← utf8String "comment text" r.text
  pure ⟨loc.toUInt32, before.toUInt32, after.toUInt32, text⟩

/-- The comments of a comments result: the first `count` records, null ones skipped. -/
def commentsOf (r : CommentsReply) : Except Error (List DeparseComment) := do
  let records ← pointerArray "comment list" r.comments r.count
  (records.filterMap id).mapM copyComment

/-- Finds the comments of a text. -/
def extractComments (e : Engine σ) (sql : String) : Call σ (Except Error (List DeparseComment)) :=
  withBuffer (Buffer.ofText sql) fun buf =>
    runOptional e .deparseComments "pg_query_deparse_comments_for_query"
      (e.deparseComments buf.content) (·.error) commentsOf

end Parser
end PgBinding
