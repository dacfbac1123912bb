import PgBinding.Json.Value
import PgBinding.Float64.Shortest
/-!
JSON text: compact, and pretty with two-space indentation.

Strings escape the quote, the backslash and the control characters below U+0020 (`\b`, `\t`,
`\n`, `\f`, `\r` by name, the rest as `\u00xx` in lowercase); everything else, non-ASCII
included, is written as it is.
-/
namespace PgBinding
namespace Json

/-- The escaped form of one character inside a string. -/
def escapeChar (c : Char) : List Char :=
  if c = '"' then ['\\', '"']
  else if c = '\\' then ['\\', '\\']
  else if c = '\n' then ['\\', 'n']
  else if c = '\t' then ['\\', 't']
  else if c = '\r' then ['\\', 'r']
  else if c.toNat = 8 then ['\\', 'b']
  else if c.toNat = 12 then ['\\', 'f']
  else if c.toNat < 0x20 then
    let hex := "0123456789abcdef".toList
    ['\\', 'u', '0', '0', hex.getD (c.toNat / 16) '0', hex.getD (c.toNat % 16) '0']
  else [c]

/-- A string literal. -/
def quote (s : String) : String :=
  String.ofList ('"' :: (s.toList.flatMap escapeChar ++ ['"']))

/-- The text of a number. -/
def Number.text : Number → String
  | .nat n => toString n.toNat
  | .neg n => toString n.toInt
  | .float bits => Float64.toJsonText (Float.ofBits bits)

mutual
/-- Compact text: no blanks between tokens. -/
def Value.compact : Value → String
  | .null => "null"
  | .bool true => "true"
  | .bool false => "false"
  | .num n => n.text
  | .str s => quote s
  | .arr items => "[" ++ ",".intercalate (compactItems items) ++ "]"
  | .obj members => "\x7b" ++ ",".intercalate (compactMembers members) ++ "\x7d"

/-- Compact texts of array items. -/
def compactItems : List Value → List String
  | [] => []
  | v :: rest => v.compact :: compactItems rest

/-- Compact texts of object members. -/
def compactMembers : List (String × Value) → List String
  | [] => []
  | (k, v) :: rest => (quote k ++ ":" ++ v.compact) :: compactMembers rest
end

/-- Blanks for an indentation depth. -/
def indent (depth : Nat) : String := String.ofList (List.replicate (2 * depth) ' ')

mutual
/-- Pretty text at an indentation depth: one item or member per line, two spaces per level,
`": "` after keys; empty arrays and objects stay on one line. -/
def Value.pretty (depth : Nat) : Value → String
  | .arr [] => "[]"
  | .obj [] => "\x7b\x7d"
  | .arr items =>
    "[\n" ++ ",\n".intercalate (prettyItems (depth + 1) items) ++ "\n" ++ indent depth ++ "]"
  | .obj members =>
    "\x7b\n" ++ ",\n".intercalate (prettyMembers (depth + 1) members) ++ "\n" ++ indent depth ++
      "\x7d"
  | v => v.compact

/-- Pretty texts of array items. -/
def prettyItems (depth : Nat) : List Value → List String
  | [] => []
  | v :: rest => (indent depth ++ v.pretty depth) :: prettyItems depth rest

/-- Pretty texts of object members. -/
def prettyMembers (depth : Nat) : List (String × Value) → List String
  | [] => []
  | (k, v) :: rest => (indent depth ++ quote k ++ ": " ++ v.pretty depth) :: prettyMembers depth rest
end

end Json
end PgBinding
