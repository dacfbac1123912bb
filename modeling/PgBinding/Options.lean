import PgBinding.Error
/-!
Options of the parser: the grammar entry point, the parser flags and how they travel to the
engine as one C `int`, the splitting algorithm, and the presentation options of deparsing.

The options word keeps the entry point in its low four bits and ors the flags over it; flags
outside the three named ones are passed through untouched.
-/
namespace PgBinding

/-- The grammar entry point a text is parsed with. -/
inductive ParseMode where
  | default
  | typeName
  | plpgsqlExpr
  | plpgsqlAssign1
  | plpgsqlAssign2
  | plpgsqlAssign3
  deriving Repr, DecidableEq, Inhabited

namespace ParseMode

/-- Every entry point, in code order. -/
def all : List ParseMode :=
  [.default, .typeName, .plpgsqlExpr, .plpgsqlAssign1, .plpgsqlAssign2, .plpgsqlAssign3]

/-- The engine's code for an entry point. -/
def code : ParseMode → Int32
  | .default => 0
  | .typeName => 1
  | .plpgsqlExpr => 2
  | .plpgsqlAssign1 => 3
  | .plpgsqlAssign2 => 4
  | .plpgsqlAssign3 => 5

/-- The entry point with a given code. -/
def ofCode? (v : Int32) : Option ParseMode := all.find? (·.code == v)

/-- The entry point with a given code, refusing every other value. -/
def tryFrom (v : Int32) : Except Error ParseMode :=
  match ofCode? v with
  | some m => .ok m
  | none => .error (.invalidParseMode v)

/-- The entry point's name in configuration files and serialized forms. -/
def name : ParseMode → String
  | .default => "default"
  | .typeName => "type_name"
  | .plpgsqlExpr => "plpgsql_expr"
  | .plpgsqlAssign1 => "plpgsql_assign1"
  | .plpgsqlAssign2 => "plpgsql_assign2"
  | .plpgsqlAssign3 => "plpgsql_assign3"

/-- The entry point with a given name. -/
def ofName? (s : String) : Option ParseMode := all.find? (·.name == s)

end ParseMode

/-- The named parser flags: each a single bit of the options word. -/
inductive ParserFlag where
  | disableBackslashQuote
  | disableStandardConformingStrings
  | disableEscapeStringWarning
  deriving Repr, DecidableEq

namespace ParserFlag

/-- Every named flag. -/
def all : List ParserFlag :=
  [.disableBackslashQuote, .disableStandardConformingStrings, .disableEscapeStringWarning]

/-- The flag's bit. -/
def bit : ParserFlag → Int32
  | .disableBackslashQuote => 16
  | .disableStandardConformingStrings => 32
  | .disableEscapeStringWarning => 64

/-- The flag's name in configuration files. -/
def name : ParserFlag → String
  | .disableBackslashQuote => "disable_backslash_quote"
  | .disableStandardConformingStrings => "disable_standard_conforming_strings"
  | .disableEscapeStringWarning => "disable_escape_string_warning"

/-- The flag with a given name. -/
def ofName? (s : String) : Option ParserFlag := all.find? (·.name == s)

end ParserFlag

/-- The bits of the options word that hold the entry point. -/
def modeMask : Int32 := 15

/-- Parse options: an entry point and the raw flag bits, unknown bits included. -/
structure ParseOptions where
  mode : ParseMode := .default
  flags : Int32 := 0
  deriving Repr, DecidableEq

/-- The options word: the entry point's code in the low four bits, or the flags. -/
def ParseOptions.bits (o : ParseOptions) : Int32 := (o.mode.code &&& modeMask) ||| o.flags

/-- Options with an entry point and no flags. -/
def ParseOptions.withMode (m : ParseMode) : ParseOptions := { mode := m }

/-- The options an entry point converts to: the entry point with no flags. -/
def ParseOptions.ofMode (m : ParseMode) : ParseOptions := withMode m

/-- How a batch of statements is split. -/
inductive SplitAlgorithm where
  /-- The scanner alone: fast, and tolerant of invalid statements. -/
  | scanner
  /-- The full parser: fails on invalid statements. -/
  | parser
  deriving Repr, DecidableEq, Inhabited

/-- The algorithm's name in configuration files and serialized forms. -/
def SplitAlgorithm.name : SplitAlgorithm → String
  | .scanner => "scanner"
  | .parser => "parser"

/-- The algorithm with a given name. -/
def SplitAlgorithm.ofName? : String → Option SplitAlgorithm
  | "scanner" => some .scanner
  | "parser" => some .parser
  | _ => none

/-- Presentation options of deparsing. -/
structure DeparseOptions where
  prettyPrint : Bool := true
  indentSize : UInt32 := 2
  maxLineLength : UInt32 := 0
  trailingNewline : Bool := true
  commasStartOfLine : Bool := false
  deriving Repr, DecidableEq

end PgBinding
