import PgBinding.Engine.Basic
import PgBinding.Text.Debug
/-!
The engine behind a shared library, loaded at run time.

Loading resolves every entry point once. The nineteen required ones must all be exported; the
first missing one, in a fixed order, fails the load. The optional ones come in call-and-release
pairs, and a pair counts only when both halves are exported; the library's own set-up and
tear-down are optional one by one. What a path holds is up to the system's loader, given here as
a function from paths to images.
-/
namespace PgBinding
namespace Library

/-- What the loader finds at a path: a shared library exporting some symbols, or a reason it
cannot be loaded. -/
inductive Image where
  | exports (symbols : List String)
  | unloadable (reason : String)
  deriving Repr

/-- The symbols every usable library exports, in the order they are resolved. -/
def required : List String :=
  ["pg_query_normalize", "pg_query_normalize_utility", "pg_query_scan", "pg_query_parse_opts",
   "pg_query_parse_protobuf_opts", "pg_query_parse_plpgsql", "pg_query_fingerprint_opts",
   "pg_query_split_with_scanner", "pg_query_split_with_parser", "pg_query_deparse_protobuf",
   "pg_query_deparse_protobuf_opts", "pg_query_free_normalize_result",
   "pg_query_free_scan_result", "pg_query_free_parse_result",
   "pg_query_free_protobuf_parse_result", "pg_query_free_plpgsql_parse_result",
   "pg_query_free_fingerprint_result", "pg_query_free_split_result",
   "pg_query_free_deparse_result"]

/-- The comments entry point and its release. -/
def commentsPair : String × String :=
  ("pg_query_deparse_comments_for_query", "pg_query_free_deparse_comments_result")

/-- The summary entry point and its release. -/
def summaryPair : String × String := ("pg_query_summary", "pg_query_free_summary_parse_result")

/-- The library's set-up and tear-down. -/
def initSymbol : String := "pg_query_init"

/-- The library's tear-down. -/
def exitSymbol : String := "pg_query_exit"

/-- Every symbol a library may export. -/
def allSymbols : List String :=
  required ++ [commentsPair.1, commentsPair.2, summaryPair.1, summaryPair.2, initSymbol, exitSymbol]

/-- A loaded library: where it was loaded from and which optional parts it has. -/
structure Loaded where
  path : String
  deparseComments : Bool
  summary : Bool
  init : Bool
  exit : Bool
  deriving Repr, DecidableEq

/-- The debug form of a loaded library. -/
def Loaded.debug (l : Loaded) : String := "LibPgQuery \x7b path: " ++ Debug.pathQuote l.path ++ ", .. \x7d"

/-- The loader's message for a symbol a library lacks. -/
def undefinedSymbol (path symbol : String) : String := s!"{path}: undefined symbol: {symbol}"

/-- The diagnostic reported for each optional symbol a library lacks. -/
def missingOptional (symbol : String) : Log.Record :=
  ⟨.debug, "pgquery::library", "libpg_query: optional symbol \x60" ++ symbol ++ "\x60 not found"⟩

/-- Loads the library at `path`: the diagnostics reported while loading, and the library or
why it cannot be used. -/
def load (image : String → Image) (path : String) : List Log.Record × Except Error Loaded :=
  let start : Log.Record := ⟨.debug, "pgquery::library", "Loading libpg_query from " ++ Debug.pathQuote path⟩
  match image path with
  | .unloadable reason => ([start], .error (.load path reason))
  | .exports syms =>
    let has (s : String) := syms.contains s
    let optionals := [commentsPair.1, commentsPair.2, summaryPair.1, summaryPair.2]
    let notes := start :: (optionals.filter (! has ·)).map missingOptional
    match required.find? (! has ·) with
    | some s => (notes, .error (.missingSymbol s (undefinedSymbol path s)))
    | none =>
      let lib : Loaded :=
        { path
          deparseComments := has commentsPair.1 && has commentsPair.2
          summary := has summaryPair.1 && has summaryPair.2
          init := has initSymbol
          exit := has exitSymbol }
      let tail := ([initSymbol, exitSymbol].filter (! has ·)).map missingOptional
      let loaded : Log.Record := ⟨.info, "pgquery::library",
        "libpg_query loaded from " ++ Debug.pathQuote path ++
          s!" (deparse comments: {lib.deparseComments}, summary: {lib.summary})"⟩
      (notes ++ tail ++ [loaded], .ok lib)

/-- The engine of a loaded library whose exported symbols are the entry points of `symbols`:
an optional part the library lacks is never reached. -/
def Loaded.engine {σ : Type} (l : Loaded) (symbols : Engine σ) : Engine σ :=
  { symbols with
    deparseComments := fun input =>
      if l.deparseComments then symbols.deparseComments input else pure none
    summary := fun input options limit =>
      if l.summary then symbols.summary input options limit else pure none
    init := if l.init then symbols.init else id
    exit := if l.exit then symbols.exit else id }

/-- The library's file name on this platform. -/
def fileName : String := "libpg_query.so"

/-- The environment variable naming the library. -/
def pathVariable : String := "PGQUERY_LIBRARY"

/-- The library path to use: the environment variable's value unless unset or empty, else the
platform's file name. -/
def defaultPath (env : Option String) : String :=
  match env with
  | some v => if v.isEmpty then fileName else v
  | none => fileName

end Library
end PgBinding
