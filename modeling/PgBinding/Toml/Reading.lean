import PgBinding.Toml.Document
/-!
Reading steps over the bytes of a document, and how a failed step is worded.

A failed step is a dead end, after which an enclosing alternative may try something else, or
final, after which nothing is tried. It records the offset where reading stopped and the
contexts it passed through on its way out: names of what was being read ("invalid table
header") and descriptions of what would have been accepted ("expected `.`, `]`").
-/
namespace PgBinding
namespace Toml

/-- A context an error passes through. -/
inductive Context where
  /-- A name for what was being read. -/
  | label (what : String)
  /-- A description of what would have been accepted. -/
  | expected (what : String)
  deriving Repr, DecidableEq

/-- Why reading stopped. -/
structure Fault where
  offset : Nat
  /-- The contexts passed through, innermost first. -/
  contexts : List Context
  /-- The rule that was broken, when a value was read but refused. -/
  cause : Option String
  /-- Whether the fault is final: no alternative is tried after it. -/
  final : Bool
  deriving Repr

/-- The wording of a fault: the innermost name, then everything expected, then the cause, each
on a line of its own. -/
def Fault.message (f : Fault) : String :=
  let label := f.contexts.findSome? fun c => match c with
    | .label l => some l
    | .expected _ => none
  let expected := f.contexts.filterMap fun c => match c with
    | .expected e => some e
    | .label _ => none
  let parts := (label.map ("invalid " ++ ·)).toList ++
    (if expected.isEmpty then [] else ["expected " ++ ", ".intercalate expected]) ++ f.cause.toList
  "\n".intercalate parts

/-- The bytes still to read and the offset of the first of them. -/
structure Cursor where
  rest : Bytes
  pos : Nat

/-- A reading step. -/
abbrev Parse := StateT Cursor (Except Fault)

/-- A dead end at an offset. -/
def Fault.deadEnd (offset : Nat) : Fault := ⟨offset, [], none, false⟩

/-- The next byte, unread. -/
def peekByte : Parse (Option UInt8) := fun c => .ok (c.rest.head?, c)

/-- The offset of the next byte. -/
def offset : Parse Nat := fun c => .ok (c.pos, c)

/-- A dead end here. -/
def deadEnd {α : Type} : Parse α := fun c => .error (Fault.deadEnd c.pos)

/-- A final fault here, for a broken rule. -/
def refuse {α : Type} (cause : String) : Parse α := fun c => .error ⟨c.pos, [], some cause, true⟩

/-- Adds a context to the faults of a step. -/
def withContext {α : Type} (ctx : Context) (p : Parse α) : Parse α := fun c =>
  match p c with
  | .error f => .error { f with contexts := f.contexts ++ [ctx] }
  | r => r

/-- Adds contexts to the faults of a step, innermost first. -/
def withContexts {α : Type} (ctxs : List Context) (p : Parse α) : Parse α := fun c =>
  match p c with
  | .error f => .error { f with contexts := f.contexts ++ ctxs }
  | r => r

/-- Makes the faults of a step final. -/
def final {α : Type} (p : Parse α) : Parse α := fun c =>
  match p c with
  | .error f => .error { f with final := true }
  | r => r

/-- A step that may be absent: a dead end reads nothing. -/
def optional {α : Type} (p : Parse α) : Parse (Option α) := fun c =>
  match p c with
  | .ok (a, c') => .ok (some a, c')
  | .error f => if f.final then .error f else .ok (none, c)

/-- The first step, or after its dead end the second from the same place; a dead end of both
is the second's. -/
def orElse {α : Type} (p q : Parse α) : Parse α := fun c =>
  match p c with
  | .error f => if f.final then .error f else q c
  | r => r

/-- Runs a step without reading: a fault is reported where the step began. -/
def lookahead {α : Type} (p : Parse α) : Parse α := fun c =>
  match p c with
  | .ok (a, _) => .ok (a, c)
  | .error f => .error { f with offset := c.pos }

/-- A step whose result must pass a check; a refused result is a dead end where the step began,
with the check's reason as its cause. -/
def checked {α β : Type} (p : Parse α) (check : α → Except String β) : Parse β := fun c =>
  match p c with
  | .ok (a, c') =>
    match check a with
    | .ok b => .ok (b, c')
    | .error cause => .error ⟨c.pos, [], some cause, false⟩
  | .error f => .error f

/-- One byte of a class. -/
def byte (ok : UInt8 → Bool) : Parse UInt8 := fun c =>
  match c.rest with
  | b :: r => if ok b then .ok (b, ⟨r, c.pos + 1⟩) else .error (Fault.deadEnd c.pos)
  | [] => .error (Fault.deadEnd c.pos)

/-- Any one byte. -/
def anyByte : Parse UInt8 := byte fun _ => true

/-- Whether the bytes ahead start with `bs`. -/
def startsWith (bs : Bytes) : Parse Bool := fun c => .ok (bs.isPrefixOf c.rest, c)

/-- Exactly the bytes `bs`. -/
def literal (bs : Bytes) : Parse Unit := fun c =>
  if bs.isPrefixOf c.rest then .ok ((), ⟨c.rest.drop bs.length, c.pos + bs.length⟩)
  else .error (Fault.deadEnd c.pos)

/-- The end of the document. -/
def eof : Parse Unit := fun c =>
  if c.rest.isEmpty then .ok ((), c) else .error (Fault.deadEnd c.pos)

/-- The longest run, at most `most` bytes, of a class. -/
def takeUpTo (most : Nat) (ok : UInt8 → Bool) : Parse Bytes := fun c =>
  let taken := (c.rest.take most).takeWhile ok
  .ok (taken, ⟨c.rest.drop taken.length, c.pos + taken.length⟩)

/-- The longest run of a class. -/
def takeWhile (ok : UInt8 → Bool) : Parse Bytes := fun c =>
  let taken := c.rest.takeWhile ok
  .ok (taken, ⟨c.rest.drop taken.length, c.pos + taken.length⟩)

/-- The longest run of a class, at least one byte. -/
def takeWhile1 (ok : UInt8 → Bool) : Parse Bytes := fun c =>
  let taken := c.rest.takeWhile ok
  if taken.isEmpty then .error (Fault.deadEnd c.pos)
  else .ok (taken, ⟨c.rest.drop taken.length, c.pos + taken.length⟩)

/-- Exactly `n` bytes of a class, or a dead end that reads nothing. -/
def takeExactly (n : Nat) (ok : UInt8 → Bool) : Parse Bytes := fun c =>
  let taken := (c.rest.take n).takeWhile ok
  if taken.length = n then .ok (taken, ⟨c.rest.drop n, c.pos + n⟩)
  else .error (Fault.deadEnd c.pos)

/-- The bytes a step reads, with its result. -/
def recognize {α : Type} (p : Parse α) : Parse (Bytes × α) := fun c =>
  match p c with
  | .ok (a, c') => .ok ((c.rest.take (c'.pos - c.pos), a), c')
  | .error f => .error f

/-- Repeats a step until its dead end, which reads nothing; at most `fuel` times, and never
again after a step that read nothing. Each step's result is kept, in order. -/
def repeatFuel {α : Type} (p : Parse α) : Nat → List α → Cursor → Except Fault (List α × Cursor)
  | 0, acc, c => .ok (acc.reverse, c)
  | fuel + 1, acc, c =>
    match p c with
    | .ok (a, c') => if c'.pos = c.pos then .ok ((a :: acc).reverse, c') else repeatFuel p fuel (a :: acc) c'
    | .error f => if f.final then .error f else .ok (acc.reverse, c)

/-- Repeats a step until its dead end. Every step that continues reads a byte, so the length
of the input bounds the repetitions. -/
def many {α : Type} (p : Parse α) : Parse (List α) := fun c => repeatFuel p (c.rest.length + 1) [] c

/-- A step, then as many more as follow. -/
def many1 {α : Type} (p : Parse α) : Parse (List α) := do
  let a ← p
  let rest ← many p
  pure (a :: rest)

/-- Items after the first, each after a separator; a separator not followed by an item is
left unread. -/
def separatedFuel {α : Type} (p : Parse α) (sep : Parse Unit) :
    Nat → List α → Cursor → Except Fault (List α × Cursor)
  | 0, acc, c => .ok (acc.reverse, c)
  | fuel + 1, acc, c =>
    match sep c with
    | .error f => if f.final then .error f else .ok (acc.reverse, c)
    | .ok ((), c') =>
      match p c' with
      | .error f => if f.final then .error f else .ok (acc.reverse, c)
      | .ok (a, c'') => separatedFuel p sep fuel (a :: acc) c''

/-- Items divided by separators, perhaps none. -/
def separated {α : Type} (p : Parse α) (sep : Parse Unit) : Parse (List α) := fun c =>
  match p c with
  | .error f => if f.final then .error f else .ok ([], c)
  | .ok (a, c') => separatedFuel p sep (c'.rest.length + 1) [a] c'

/-- Items divided by separators, at least one. -/
def separated1 {α : Type} (p : Parse α) (sep : Parse Unit) : Parse (List α) := fun c =>
  match p c with
  | .error f => .error f
  | .ok (a, c') => separatedFuel p sep (c'.rest.length + 1) [a] c'

/-- The text of well-formed UTF-8 bytes. -/
def text (bs : Bytes) : String := Utf8.lossy bs

end Toml
end PgBinding
