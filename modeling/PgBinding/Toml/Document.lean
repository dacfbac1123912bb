import PgBinding.Text.Utf8
/-!
TOML documents as read: every value remembers the bytes it was written in, so that a later
complaint about it can point there.

A table remembers how it came to be, because that decides what may still be added to it: a
table opened by a `[header]` may not be reopened, a table that only exists as the prefix of a
header may be opened once, a table made by a dotted key may only grow by dotted keys, and an
inline table is a finished value.
-/
namespace PgBinding
namespace Toml

/-- A byte range `[start, stop)` of the document text. -/
structure Span where
  start : Nat
  stop : Nat
  deriving Repr, DecidableEq

/-- A key as written: its unquoted name, its text as written, and where it stands. -/
structure Key where
  name : String
  raw : String
  span : Span
  deriving Repr, DecidableEq

/-- How a table came to be. -/
inductive TableForm where
  /-- Opened by a `[header]` or `[[header]]`. -/
  | header
  /-- Named only as the prefix of a header. -/
  | implicit
  /-- Made by a dotted key. -/
  | dotted
  /-- Written inline, `{ ... }`. -/
  | inline
  /-- Made by a dotted key inside an inline table. -/
  | inlineDotted
  deriving Repr, DecidableEq

/-- Whether more keys may still be put into the table from outside: it was only implied. -/
def TableForm.isImplicit : TableForm → Bool
  | .implicit | .dotted | .inlineDotted => true
  | _ => false

/-- Whether the table was made by a dotted key. -/
def TableForm.isDotted : TableForm → Bool
  | .dotted | .inlineDotted => true
  | _ => false

/-- A value of a document, with the span it was written in. Tables hold their entries in the
order the keys first appeared; `tables` is an array of tables, each a `table`. -/
inductive Item where
  | string (s : String) (span : Span)
  | integer (i : Int) (span : Span)
  | float (f : Float) (span : Span)
  | boolean (b : Bool) (span : Span)
  | datetime (span : Span)
  | array (items : List Item) (span : Span)
  | table (entries : List (Key × Item)) (form : TableForm) (span : Option Span)
  | tables (items : List Item) (span : Option Span)
  deriving Repr

/-- Entries of a table. -/
abbrev Entries := List (Key × Item)

namespace Item

/-- Where the item was written, if it was written in one place. -/
def span? : Item → Option Span
  | .string _ s | .integer _ s | .float _ s | .boolean _ s | .datetime s | .array _ s => some s
  | .table _ _ s | .tables _ s => s

/-- The name of a value's type in messages about extending it. -/
def typeName : Item → String
  | .string .. => "string"
  | .integer .. => "integer"
  | .float .. => "float"
  | .boolean .. => "boolean"
  | .datetime .. => "datetime"
  | .array .. => "array"
  | .table _ .inline _ | .table _ .inlineDotted _ => "inline table"
  | .table .. => "table"
  | .tables .. => "array of tables"

end Item

/-- The item under a key name. -/
def Entries.lookup (es : Entries) (name : String) : Option Item :=
  (List.find? (fun (e : Key × Item) => e.1.name == name) es).map (·.2)

/-- Replaces the item under a key name, keeping its place. -/
def Entries.replace (es : Entries) (name : String) (item : Item) : Entries :=
  List.map (fun (e : Key × Item) => if e.1.name == name then (e.1, item) else e) es

/-- Removes the entry under a key name. -/
def Entries.remove (es : Entries) (name : String) : Entries :=
  List.filter (fun (e : Key × Item) => e.1.name != name) es

end Toml
end PgBinding
