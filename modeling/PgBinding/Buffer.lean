import PgBinding.Error
/-!
Input buffers: the bytes handed to the engine, which reads them as a NUL-terminated C string.

A text is copied and a terminator appended, so it must hold no NUL of its own. Caller bytes are
passed as they are, so they must already end in the terminator and hold no other NUL. Either way
the buffer's content is what precedes the terminator.
-/
namespace PgBinding

/-- An input buffer: its content (without the terminator) and whether the caller's own bytes
are passed rather than a copy. -/
structure Buffer where
  content : Bytes
  borrowed : Bool
  deriving Repr, DecidableEq

namespace Buffer

/-- A buffer holding a copy of `text` and a terminator. -/
def ofText (text : String) : Except PreconditionError Buffer :=
  let bs := Utf8.encode text
  match bs.idxOf? 0 with
  | some i => .error (.interiorNul i)
  | none => .ok ⟨bs, false⟩

/-- The C string held by bytes whose only NUL is their last byte: the bytes before it. -/
def cStrContent? (bs : Bytes) : Option Bytes :=
  match bs.idxOf? 0 with
  | some i => if i + 1 = bs.length then some (bs.take i) else none
  | none => none

/-- A buffer over caller bytes that end in the terminator. The bytes are viewed as a C string
only after they are checked; that view's own refusal is reported as a NUL at offset 0. -/
def ofBytes (bs : Bytes) : Except PreconditionError Buffer :=
  match bs.getLast? with
  | none => .error .emptyBuffer
  | some last =>
    if last ≠ 0 then .error .missingTerminator
    else
      let body := bs.dropLast
      match body.idxOf? 0 with
      | some i => .error (.interiorNul i)
      | none =>
        match cStrContent? bs with
        | some content => .ok ⟨content, true⟩
        | none => .error (.interiorNul 0)

/-- The content's length in bytes. -/
def length (b : Buffer) : Nat := b.content.length

/-- Whether the content is empty. -/
def isEmpty (b : Buffer) : Bool := b.content.isEmpty

end Buffer

end PgBinding
