import PgBinding.Toml.Error
import PgBinding.Text.Debug
import PgBinding.Float64.Shortest
/-!
Reading typed settings out of TOML values, and the wording of what does not fit.

A message names what was found ("invalid type: integer `1`, expected a boolean") and points at
the value, or at its key when the value was never written out (a table only implied by a
header). A struct takes its fields from a table, or in order from an array; fields it does not
know are refused or skipped, as the struct decides.
-/
namespace PgBinding
namespace Toml

/-- How a value is named in a message about an unexpected value: scalars with their text,
arrays as a sequence, tables and dates as a map. -/
def Item.unexpected : Item → String
  | .string s _ => "string " ++ Debug.quote s
  | .integer i _ => "integer \x60" ++ toString i ++ "\x60"
  | .float f _ =>
    let t := Float64.plainText f
    let t := if f.isNaN || f.isInf || t.contains '.' then t else t ++ ".0"
    "floating point \x60" ++ t ++ "\x60"
  | .boolean b _ => "boolean \x60" ++ (if b then "true" else "false") ++ "\x60"
  | .datetime _ => "map"
  | .array .. | .tables .. => "sequence"
  | .table .. => "map"

/-- Where an error about a value points: the value, else its key. -/
def spanFor (k : Option Key) (v : Item) : Option Span := v.span?.or (k.map (·.span))

/-- A value of the wrong type. -/
def invalidType (expected : String) (k : Option Key) (v : Item) : Error :=
  ⟨"invalid type: " ++ v.unexpected ++ ", expected " ++ expected, spanFor k v⟩

/-- Names in a message: one, two joined by `or`, or a list after `one of`. -/
def oneOf (names : List String) : String :=
  let q (n : String) := "\x60" ++ n ++ "\x60"
  match names with
  | [a] => q a
  | [a, b] => q a ++ " or " ++ q b
  | _ => "one of " ++ ", ".intercalate (names.map q)

/-- A boolean. -/
def readBool (k : Option Key) (v : Item) : Except Error Bool :=
  match v with
  | .boolean b _ => .ok b
  | _ => .error (invalidType "a boolean" k v)

/-- An unsigned 32-bit integer. -/
def readUInt32 (k : Option Key) (v : Item) : Except Error UInt32 :=
  match v with
  | .integer i _ =>
    if 0 ≤ i ∧ i < Int.pow 2 32 then .ok (UInt32.ofNat i.toNat)
    else .error ⟨"invalid value: integer \x60" ++ toString i ++ "\x60, expected u32", spanFor k v⟩
  | _ => .error (invalidType "u32" k v)

/-- A path, written as a string. -/
def readPath (k : Option Key) (v : Item) : Except Error String :=
  match v with
  | .string s _ => .ok s
  | _ => .error (invalidType "path string" k v)

/-- Checks that the value under a variant name carries nothing: an empty array or table. Any
other array or table is refused as a table that is not empty. -/
def unitVariant (outer : Option Span) (v : Item) : Except Error Unit :=
  let place := (v.span?).or outer
  match v with
  | .array [] _ | .tables [] _ | .table [] _ _ => .ok ()
  | .array .. | .tables .. | .table .. => .error ⟨"expected empty table", place⟩
  | other => .error ⟨"expected table, found " ++ other.typeName, place⟩

/-- One of the named variants: a string, or a table whose single key names the variant. -/
def readVariant (names : List String) (k : Option Key) (v : Item) : Except Error String :=
  let unknown (s : String) (place : Option Span) : Error :=
    ⟨"unknown variant \x60" ++ s ++ "\x60, expected " ++ oneOf names, place⟩
  match v with
  | .string s _ => if names.contains s then .ok s else .error (unknown s (spanFor k v))
  | .table [] _ _ => .error ⟨"wanted exactly 1 element, found 0 elements", spanFor k v⟩
  | .table [(vk, vv)] _ _ =>
    if names.contains vk.name then do
      unitVariant (spanFor k v) vv
      pure vk.name
    else .error (unknown vk.name (some vk.span))
  | .table .. => .error ⟨"wanted exactly 1 element, more than 1 element", spanFor k v⟩
  | _ => .error ⟨"wanted string or table", spanFor k v⟩

/-- A sequence of values, from an array or an array of tables. -/
def readList {α : Type} (item : Option Key → Item → Except Error α) (k : Option Key) (v : Item) :
    Except Error (List α) :=
  match v with
  | .array items _ | .tables items _ => items.mapM (item none)
  | _ => .error (invalidType "a sequence" k v)

/-- The key under which a date is seen when it is read as a table. -/
def datetimeField : String := "$__toml_private_datetime"

/-- A struct named `name` with fields `fields`: from a table, each known key read by `field` in
the order written, unknown keys refused when `strict` and skipped otherwise; or from an array, the
fields in order, missing ones left at their defaults. -/
def readStruct {σ : Type} (name : String) (fields : List String) (strict : Bool) (init : σ)
    (field : String → Option Key → Item → σ → Except Error σ) (k : Option Key) (v : Item) :
    Except Error σ :=
  let unknown (f : String) (place : Option Span) : Error :=
    ⟨"unknown field \x60" ++ f ++ "\x60, " ++
      (if fields.isEmpty then "there are no fields" else "expected " ++ oneOf fields), place⟩
  match v with
  | .table es _ _ =>
    List.foldlM (fun s (fk, fv) =>
      if fields.contains fk.name then field fk.name (some fk) fv s
      else if strict then .error (unknown fk.name (some fk.span))
      else .ok s) init es
  | .array items _ | .tables items _ =>
    List.foldlM (fun s (f, item) => field f none item s) init (fields.zip items)
  | .datetime _ => if strict then .error (unknown datetimeField (spanFor k v)) else .ok init
  | _ => .error (invalidType ("struct " ++ name) k v)

end Toml
end PgBinding
