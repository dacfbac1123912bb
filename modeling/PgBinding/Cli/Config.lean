import PgBinding.Toml.Read
import PgBinding.Toml.Decode
import PgBinding.Options
import PgBinding.Json.Value
/-!
The configuration file of the command line tool: where the engine library is, and the default
options of the parse, split and format commands.

```toml
library = "/usr/local/lib/libpg_query.so"

[parse]
mode = "default"
flags = ["disable_backslash_quote"]

[split]
algorithm = "parser"

[deparse]
indent_size = 4
```

Every key may be left out. Unknown keys are refused, except in `[deparse]`, where they are
skipped.
-/
namespace PgBinding
namespace Cli

/-- The `[parse]` section: the default grammar entry point and parser flags. -/
structure ParseSection where
  mode : ParseMode := .default
  flags : List ParserFlag := []
  deriving Repr, DecidableEq

/-- The configuration of the command line tool. -/
structure Config where
  /-- Path of the engine library. -/
  library : Option String := none
  parse : ParseSection := {}
  /-- The `[split]` section's algorithm. -/
  algorithm : SplitAlgorithm := .scanner
  deparse : DeparseOptions := {}
  deriving Repr

/-- The name of the configuration file looked for in the working directory. -/
def configFileName : String := "pgquery.toml"

/-- The parse options of a configuration: its entry point, and its flags or-ed together. -/
def Config.parseOptions (c : Config) : ParseOptions :=
  { mode := c.parse.mode, flags := c.parse.flags.foldl (fun acc f => acc ||| f.bit) 0 }

namespace Config
open Toml

/-- A grammar entry point, by name. -/
def readMode (k : Option Key) (v : Item) : Except Toml.Error ParseMode := do
  let name ← readVariant (ParseMode.all.map ParseMode.name) k v
  pure ((ParseMode.ofName? name).getD .default)

/-- A parser flag, by name. -/
def readFlag (k : Option Key) (v : Item) : Except Toml.Error ParserFlag := do
  let name ← readVariant (ParserFlag.all.map ParserFlag.name) k v
  pure ((ParserFlag.ofName? name).getD .disableBackslashQuote)

/-- The `[parse]` section. -/
def readParse : Option Key → Item → Except Toml.Error ParseSection :=
  readStruct "ParseSection" ["mode", "flags"] true {} fun f k v s =>
    if f = "mode" then do pure { s with mode := ← readMode k v }
    else do pure { s with flags := ← readList readFlag k v }

/-- The `[split]` section. -/
def readSplit : Option Key → Item → Except Toml.Error SplitAlgorithm :=
  readStruct "SplitSection" ["algorithm"] true .scanner fun _ k v _ => do
    let name ← readVariant [SplitAlgorithm.scanner.name, SplitAlgorithm.parser.name] k v
    pure ((SplitAlgorithm.ofName? name).getD .scanner)

/-- The `[deparse]` section; unknown keys are skipped. -/
def readDeparse : Option Key → Item → Except Toml.Error DeparseOptions :=
  readStruct "DeparseOptions"
    ["pretty_print", "indent_size", "max_line_length", "trailing_newline", "commas_start_of_line"]
    false {} fun f k v s =>
      if f = "pretty_print" then do pure { s with prettyPrint := ← readBool k v }
      else if f = "indent_size" then do pure { s with indentSize := ← readUInt32 k v }
      else if f = "max_line_length" then do pure { s with maxLineLength := ← readUInt32 k v }
      else if f = "trailing_newline" then do pure { s with trailingNewline := ← readBool k v }
      else do pure { s with commasStartOfLine := ← readBool k v }

/-- A configuration from the root table of a document. -/
def ofTable (root : Entries) : Except Toml.Error Config :=
  readStruct "Config" ["library", "parse", "split", "deparse"] true {} (fun f k v s =>
      if f = "library" then do pure { s with library := some (← readPath k v) }
      else if f = "parse" then do pure { s with parse := ← readParse k v }
      else if f = "split" then do pure { s with algorithm := ← readSplit k v }
      else do pure { s with deparse := ← readDeparse k v })
    none (.table root .header none)

/-- A configuration from the text of a configuration file. -/
def ofToml (text : String) : Except Toml.Error Config := do
  ofTable (← readDocument text)

/-- The serialized form of a configuration. -/
def toJson (c : Config) : Json.Value :=
  .obj [("library", .ofOption .str c.library),
    ("parse", .obj [("mode", .str c.parse.mode.name),
      ("flags", .arr (c.parse.flags.map fun f => .str f.name))]),
    ("split", .obj [("algorithm", .str c.algorithm.name)]),
    ("deparse", .obj [("pretty_print", .bool c.deparse.prettyPrint),
      ("indent_size", .ofNat c.deparse.indentSize.toNat),
      ("max_line_length", .ofNat c.deparse.maxLineLength.toNat),
      ("trailing_newline", .bool c.deparse.trailingNewline),
      ("commas_start_of_line", .bool c.deparse.commasStartOfLine)])]

end Config
end Cli
end PgBinding
