import PgBinding.Text.Width.Unicode17
/-!
Terminal escape sequences inside text, and the columns a text takes with them left out (by the
Unicode 17 data).

An escape character starts a sequence that always takes the character after it too. After
`ESC [` (a control sequence) the sequence runs to its final character, the first one from `@` to
`~`; after `ESC ]` (an operating system command) it runs to a bell character, or to a backslash
that follows an escape, the escape before the bracket counting as one. A sequence that the end of
the text cuts short runs to the end. A sequence takes no columns.

`flatMap_chars_pieces` says that cutting a text into pieces loses and adds nothing.
-/
namespace PgBinding
namespace Text

/-- A piece of text: a character shown on its own, or a whole escape sequence. -/
inductive Piece where
  | shown (c : Char)
  | escape (cs : List Char)
  deriving Repr, DecidableEq

/-- How many characters of a control sequence's body there are, up to its final character. -/
def controlLength : List Char → Nat
  | [] => 0
  | c :: rest => if 0x40 ≤ c.toNat && c.toNat ≤ 0x7E then 1 else controlLength rest + 1

/-- How many characters of an operating system command's body there are, up to the one that ends
it; `afterEscape` says whether the character before the first one is an escape. -/
def commandLength (afterEscape : Bool) : List Char → Nat
  | [] => 0
  | c :: rest =>
    if c = '\x07' || (c = '\\' && afterEscape) then 1 else commandLength (c = '\x1b') rest + 1

/-- How many characters an escape sequence takes after its escape character. -/
def escapeTail : List Char → Nat
  | [] => 0
  | '[' :: rest => controlLength rest + 1
  | ']' :: rest => commandLength true rest + 1
  | _ :: _ => 1

/-- A text cut into shown characters and escape sequences. -/
def pieces (cs : List Char) : List Piece :=
  match cs with
  | [] => []
  | c :: rest =>
    if c = '\x1b' then
      .escape (c :: rest.take (escapeTail rest)) :: pieces (rest.drop (escapeTail rest))
    else .shown c :: pieces rest
termination_by cs.length
decreasing_by all_goals simp only [List.length_drop, List.length_cons]; omega

/-- The characters of a piece. -/
def Piece.chars : Piece → List Char
  | .shown c => [c]
  | .escape cs => cs

/-- The columns a piece takes. -/
def Piece.width : Piece → Nat
  | .shown c => WidthTable.unicode17.charWidth c
  | .escape _ => 0

/-- The character a piece shows, if it is not an escape sequence. -/
def Piece.shownChar? : Piece → Option Char
  | .shown c => some c
  | .escape _ => none

/-- The characters of a text that are shown, its escape sequences left out. -/
def stripEscapes (cs : List Char) : List Char := (pieces cs).filterMap Piece.shownChar?

/-- The columns a text takes, its escape sequences taking none. -/
def textWidth (cs : List Char) : Nat := ((pieces cs).map Piece.width).foldr (· + ·) 0

/-- The pieces of a text put back together give the text. -/
theorem flatMap_chars_pieces (cs : List Char) : (pieces cs).flatMap Piece.chars = cs := by
  fun_induction pieces cs with
  | case1 => rfl
  | case2 rest ih =>
    simp only [List.flatMap_cons, Piece.chars, ih, List.cons_append, List.take_append_drop]
  | case3 c rest _ ih => simp only [List.flatMap_cons, Piece.chars, ih, List.singleton_append]

end Text
end PgBinding
