import PgBinding.Engine.Basic
import PgBinding.Json.Read
/-!
Copying values out of an engine's result before it is released.

Every length and count the engine hands back is checked before anything is read: a count of 0
means nothing whatever the pointer, a null array with a positive count is out of range, and a
length beyond the largest signed 64-bit value is out of range (reported clamped to it). C ints
that count or locate must not be negative.
-/
namespace PgBinding
namespace Materialize

/-- A C string, with invalid UTF-8 replaced; `none` for null. -/
def lossyString (p : Option Bytes) : Option String := p.map Utf8.lossy

/-- A C string that must be UTF-8; null is the empty text. -/
def utf8String (what : String) : Option Bytes → Except Error String
  | none => .ok ""
  | some bs =>
    match Utf8.decode bs with
    | .ok s => .ok s
    | .error e => .error (.invalidUtf8 what e)

/-- A length that must be addressable. -/
def checkedLen (what : String) (len : Nat) : Except Error Nat :=
  if len > Error.int64Max then .error (Error.outOfRangeCount what len) else .ok len

/-- The bytes of a payload; null data or a zero length is empty. -/
def payloadBytes (what : String) (p : Payload) : Except Error Bytes :=
  match p.data with
  | none => .ok []
  | some data =>
    if p.len = 0 then .ok []
    else (checkedLen what p.len).map fun len => data.take len

/-- The first `count` entries of an array; a null array is only right with a count of 0. -/
def pointerArray {α : Type} (what : String) (items : Option (List α)) (count : Nat) :
    Except Error (List α) :=
  if count = 0 then .ok []
  else match items with
    | none => .error (Error.outOfRangeCount what count)
    | some xs => (checkedLen what count).map fun n => xs.take n

/-- A C int that must not be negative. -/
def nonNegative (what : String) (v : Int32) : Except Error Nat :=
  if v.toInt < 0 then .error (.outOfRange what v.toInt) else .ok v.toInt.toNat

/-- A JSON text of the engine: the empty text is null. -/
def jsonPayload (what : String) (p : Option Bytes) : Except Error Json.Value := do
  let text ← utf8String what p
  if text.isEmpty then return .null
  let bs := Utf8.encode text
  match Json.parseBytes bs with
  | .ok v => .ok v
  | .error e => .error (.json what (e.message bs))

end Materialize
end PgBinding
