import PgBinding.Options
import PgBinding.Span
import PgBinding.Parser.Read
import PgBinding.Parser.Deparse
import PgBinding.Json.Value
/-!
The serialized forms of the option and result values, as JSON values.

A unit enumeration is its snake-case name (or an object holding only that name, mapped to null).
A record is an object with its field names; unknown members are ignored, and a record may also
come as an array of its fields in order. Deparse options fill missing fields with their defaults;
the other records need every field. Unsigned fields take JSON integers in their range only.
-/
namespace PgBinding
namespace Serialized

open Json

/-- A unit variant's name: a string, or an object holding only that name mapped to null. -/
def variantName? : Value → Option String
  | .str s => some s
  | .obj [(k, .null)] => some k
  | _ => none

/-- An unsigned integer below `2 ^ bits`. -/
def unsigned? (bits : Nat) : Value → Option Nat
  | .num (.nat n) => if n.toNat < Nat.pow 2 bits then some n.toNat else none
  | _ => none

/-- A boolean. -/
def bool? : Value → Option Bool
  | .bool b => some b
  | _ => none

/-- A string. -/
def string? : Value → Option String
  | .str s => some s
  | _ => none

/-- The fields of a record by name: from an object, each present member; from an array of at
most as many items as fields, the items in field order. -/
def fieldsOf? (names : List String) : Value → Option (List (Option Value))
  | .obj ms => some (names.map fun n => List.lookup n ms)
  | .arr items =>
    if items.length ≤ names.length then
      some (names.zipIdx.map fun (_, i) => items[i]?)
    else none
  | _ => none

/-- A field that falls back to a default when missing. -/
def orDefault {α : Type} (read : Value → Option α) (d : α) : Option Value → Option α
  | none => some d
  | some v => read v

/-- A field that must be present. -/
def required {α : Type} (read : Value → Option α) : Option Value → Option α
  | none => none
  | some v => read v

/-- An entry point from its serialized form. -/
def parseMode? (v : Value) : Option ParseMode := (variantName? v).bind ParseMode.ofName?

/-- A split algorithm from its serialized form. -/
def splitAlgorithm? (v : Value) : Option SplitAlgorithm :=
  (variantName? v).bind SplitAlgorithm.ofName?

/-- The field names of deparse options, in order. -/
def deparseFields : List String :=
  ["pretty_print", "indent_size", "max_line_length", "trailing_newline", "commas_start_of_line"]

/-- Deparse options from their serialized form; missing fields keep their defaults. -/
def deparseOptions? (v : Value) : Option DeparseOptions := do
  let d : DeparseOptions := {}
  match ← fieldsOf? deparseFields v with
  | [p, i, m, t, c] =>
    let prettyPrint ← orDefault bool? d.prettyPrint p
    let indentSize ← orDefault (unsigned? 32) d.indentSize.toNat i
    let maxLineLength ← orDefault (unsigned? 32) d.maxLineLength.toNat m
    let trailingNewline ← orDefault bool? d.trailingNewline t
    let commasStartOfLine ← orDefault bool? d.commasStartOfLine c
    pure { prettyPrint, indentSize := indentSize.toUInt32, maxLineLength := maxLineLength.toUInt32
           trailingNewline, commasStartOfLine }
  | _ => none

/-- The serialized form of deparse options. -/
def deparseOptionsJson (o : DeparseOptions) : Value :=
  .object [("pretty_print", .bool o.prettyPrint), ("indent_size", .ofNat o.indentSize.toNat),
    ("max_line_length", .ofNat o.maxLineLength.toNat), ("trailing_newline", .bool o.trailingNewline),
    ("commas_start_of_line", .bool o.commasStartOfLine)]

/-- A comment from its serialized form; every field is needed. -/
def comment? (v : Value) : Option Parser.DeparseComment := do
  match ← fieldsOf? ["match_location", "newlines_before", "newlines_after", "text"] v with
  | [l, b, a, t] =>
    let l ← required (unsigned? 32) l
    let b ← required (unsigned? 32) b
    let a ← required (unsigned? 32) a
    let t ← required string? t
    pure ⟨l.toUInt32, b.toUInt32, a.toUInt32, t⟩
  | _ => none

/-- The serialized form of a comment. -/
def commentJson (c : Parser.DeparseComment) : Value :=
  .obj [("match_location", .ofNat c.matchLocation.toNat),
    ("newlines_before", .ofNat c.newlinesBefore.toNat),
    ("newlines_after", .ofNat c.newlinesAfter.toNat), ("text", .str c.text)]

/-- A statement span from its serialized form; both fields are needed. -/
def span? (v : Value) : Option StatementSpan := do
  match ← fieldsOf? ["location", "length"] v with
  | [l, n] => pure ⟨← required (unsigned? 64) l, ← required (unsigned? 64) n⟩
  | _ => none

/-- The serialized form of a statement span. -/
def spanJson (s : StatementSpan) : Value :=
  .obj [("location", .ofNat s.location), ("length", .ofNat s.length)]

/-- A fingerprint from its serialized form; both fields are needed. -/
def fingerprint? (v : Value) : Option Parser.Fingerprint := do
  match ← fieldsOf? ["value", "text"] v with
  | [n, t] => pure ⟨(← required (unsigned? 64) n).toUInt64, ← required string? t⟩
  | _ => none

/-- The serialized form of a fingerprint. -/
def fingerprintJson (f : Parser.Fingerprint) : Value :=
  .obj [("value", .ofNat f.value.toNat), ("text", .str f.text)]

end Serialized
end PgBinding
