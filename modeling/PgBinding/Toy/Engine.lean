import PgBinding.Toy.Grammar
import PgBinding.Engine.Basic
import PgBinding.Tree.Parsed
import PgBinding.Scan.Token
import PgBinding.Json.Write
/-!
A stand-in engine over the toy grammar, keeping a ledger of the results it hands out and of the
allocations those results hold.

It can be set to misbehave: to send garbage protobuf payloads, to append an invalid byte to
every text it returns, to make the last statement span run 1000 bytes past the input, or to lack
the optional entry points. It panics on input that is not UTF-8 and on a text it would return
with a NUL inside; a panic leaves the result counted as dispatched and never released.

Every allocation is tracked as live when it is made: C strings, payload data, boxed error, split
statement and comment records, and the arrays of records. Each release walks its result as the
free function of its shape does and takes back every pointer it meets; a null pointer, or one
that is not live, is a bad free. Allocations are known by what they hold: two live allocations
may hold the same, so the live set is a multiset.
-/
namespace PgBinding
namespace Toy

/-- The grammar version the toy engine reports. -/
def version : Int32 := 170005

/-- How the toy engine misbehaves. -/
structure Flags where
  corruptPayloads : Bool := false
  invalidUtf8 : Bool := false
  oversizedSpan : Bool := false
  withoutOptional : Bool := false
  deriving Repr, DecidableEq

/-- Deparse options as the engine received them; comment texts with invalid UTF-8 replaced. -/
structure CapturedOptions where
  prettyPrint : Bool
  indentSize : Int32
  maxLineLength : Int32
  trailingNewline : Bool
  commasStartOfLine : Bool
  comments : List (Int32 × Int32 × Int32 × String)
  deriving Repr, DecidableEq

/-- An allocation of the toy engine, known by what it holds: a C string, the data of a protobuf
payload, a boxed error record, a boxed split statement, an array of split statements, a boxed
comment record, an array of comment records. -/
inductive Block where
  | cstring (bytes : Bytes)
  | payload (bytes : Bytes)
  | error (record : NativeError)
  | statement (location length : Int32)
  | statements (entries : List (Option (Int32 × Int32)))
  | comment (record : CommentRecord)
  | comments (entries : List (Option CommentRecord))
  deriving Repr, DecidableEq

/-- The toy engine's ledger. -/
structure State where
  dispatched : Nat := 0
  released : Nat := 0
  /-- The allocations handed out and not yet taken back. -/
  live : List Block := []
  /-- Frees of a null pointer or of one that is not live: each is an assertion that fired. -/
  badFrees : Nat := 0
  lastOptions : Option Int32 := none
  lastDeparseOptions : Option CapturedOptions := none
  deriving Repr, DecidableEq

/-- Every dispatched result was released and nothing is still live. -/
def State.balanced (s : State) : Bool := s.dispatched == s.released && s.live.isEmpty

/-- Hands out an allocation: a fresh one, so tracking it never fails. -/
def track (b : Block) : Call State Unit :=
  modify fun s => { s with live := b :: s.live }

/-- Takes a pointer back: a null pointer, or one that is not live, is a bad free. -/
def untrack (p : Option Block) (s : State) : State :=
  match p with
  | some b =>
    if b ∈ s.live then { s with live := s.live.erase b } else { s with badFrees := s.badFrees + 1 }
  | none => { s with badFrees := s.badFrees + 1 }

/-- Takes pointers back, one after another. -/
def takeBack (ps : List (Option Block)) (s : State) : State :=
  ps.foldl (fun s p => untrack p s) s

/-- The pointer a C string is freed by: none when it is null. -/
def cstringFreed : Option Bytes → List (Option Block)
  | some bs => [some (.cstring bs)]
  | none => []

/-- The pointer a protobuf payload is freed by: none when its data is null. -/
def payloadFreed (p : Payload) : List (Option Block) :=
  match p.data with
  | some bs => [some (.payload bs)]
  | none => []

/-- The pointers an error record is freed by: the record, then its strings. -/
def errorFreed : Option NativeError → List (Option Block)
  | some r => some (.error r) ::
    (cstringFreed r.message ++ cstringFreed r.funcname ++ cstringFreed r.filename ++
      cstringFreed r.context)
  | none => []

/-- The pointers a split array is freed by: the array, then as many entries as the count says,
each as it stands (a null entry is freed as null). -/
def statementsFreed (stmts : Option (List (Option (Int32 × Int32)))) (count : Int32) :
    List (Option Block) :=
  match stmts with
  | some entries =>
    some (.statements entries) ::
      (entries.take count.toInt.toNat).map (·.map fun (loc, len) => .statement loc len)
  | none => []

/-- The pointers a comment array is freed by: the array, then for as many records as the count
says, the record and its text (a null record is freed as null). -/
def commentsFreed (comments : Option (List (Option CommentRecord))) (count : Nat) :
    List (Option Block) :=
  match comments with
  | some entries =>
    some (.comments entries) :: (entries.take count).flatMap fun
      | some c => some (.comment c) :: cstringFreed c.text
      | none => [none]
  | none => []

/-- The pointers the free function of a shape takes back from a result, in order. -/
def freed : (sh : Shape) → sh.Record → List (Option Block)
  | .normalize, r | .parse, r | .parsePlpgsql, r | .deparse, r =>
    cstringFreed r.text ++ errorFreed r.error
  | .scan, r | .parseProtobuf, r | .summary, r => payloadFreed r.payload ++ errorFreed r.error
  | .fingerprint, r => cstringFreed r.text ++ errorFreed r.error
  | .split, r => statementsFreed r.stmts r.count ++ errorFreed r.error
  | .deparseComments, r => commentsFreed r.comments r.count ++ errorFreed r.error

/-- Releases a result: counts the release, then frees what the result holds. -/
def release (sh : Shape) (r : sh.Record) (s : State) : State :=
  takeBack (freed sh r) { s with released := s.released + 1 }

/-- Counts a dispatched result, remembering the parse options it came with. -/
def dispatch (options : Option Int32) : Call State Unit :=
  modify fun s => { s with
    dispatched := s.dispatched + 1
    lastOptions := if options.isSome then options else s.lastOptions }

/-- The input as text; it must be UTF-8. -/
def input (bs : Bytes) : Call State String :=
  match Utf8.decode bs with
  | .ok s => pure s
  | .error e => throw ⟨"fake engine expects UTF-8 input: " ++ e.debug⟩

/-- A C string the engine allocates; it must hold no NUL. -/
def allocBytes (bs : Bytes) : Call State Bytes :=
  match bs.idxOf? 0 with
  | some i =>
    throw ⟨s!"fake engine strings have no NUL: NulError({i}, [" ++
      ", ".intercalate (bs.map fun b => toString b.toNat) ++ "])"⟩
  | none => do
    track (.cstring bs)
    pure bs

/-- A text the engine returns, with an invalid byte appended when so set. -/
def allocText (f : Flags) (text : String) : Call State Bytes :=
  allocBytes (Utf8.encode text ++ if f.invalidUtf8 then [0xff] else [])

/-- A protobuf payload the engine returns: garbage when so set, null data when empty. -/
def allocPayload (f : Flags) (bs : Bytes) : Call State Payload := do
  let bs := if f.corruptPayloads then [0xff, 0xff, 0xff] else bs
  if bs.isEmpty then return {}
  track (.payload bs)
  pure { data := some bs, len := bs.length }

/-- A boxed error record from the scanner: its three strings, then the record. -/
def allocError (message : String) (cursor : Int32) : Call State NativeError := do
  let message ← allocBytes (Utf8.encode message)
  let funcname ← allocBytes (Utf8.encode "scanner_yyerror")
  let filename ← allocBytes (Utf8.encode "scan.l")
  let r : NativeError :=
    { message, funcname, filename, lineno := 1242, cursorpos := cursor }
  track (.error r)
  pure r

/-- The syntax error of an input, if it has one. -/
def syntaxError (sql : String) : Call State (Option NativeError) :=
  match syntaxErrorCursor sql with
  | some cursor => some <$> allocError "syntax error at end of input" (Int32.ofNat cursor)
  | none => pure none

/-- The parse tree of an input: one text node per statement, holding the statement's text
without surrounding blanks. -/
def parseTree (sql : String) : Tree.ParseTree :=
  { version
    stmts := (statements sql).map fun (loc, cs) =>
      { stmt := some (.typed (.mk .string [.text (Text.trim (String.ofList cs))]))
        location := Int32.ofNat loc
        length := Int32.ofNat (byteLength cs) } }

/-- The JSON parse tree of an input: each statement's offset and length. -/
def jsonTree (sql : String) : String :=
  let stmts := (statementSpans sql).map fun (loc, len) =>
    Json.Value.object [("stmt_location", .ofNat loc), ("stmt_len", .ofNat len)]
  (Json.Value.object [("version", .ofInt version.toInt), ("stmts", .arr stmts)]).compact

/-- The scanner output of an input. -/
def scanned (sql : String) : Scan.Scanned :=
  { version
    tokens := (tokens sql).map fun t =>
      { start := Int32.ofNat t.start, stop := Int32.ofNat t.stop
        keywordKind := if t.reserved then 4 else 0 } }

/-- The statement texts of an encoded tree, if every statement is a text node. -/
def statementTexts (p : Payload) : Option (List String) :=
  let bs := match p.data with
    | some d => if p.len = 0 then [] else d.take p.len
    | none => []
  match Tree.ParseTree.decode bs with
  | .error _ => none
  | .ok t => t.stmts.mapM fun s =>
    match s.stmt with
    | some (.typed (.mk .string [.text v])) => some v
    | _ => none

/-- The statements of a split, the last one made oversized when so set. -/
def splitSpans (f : Flags) (sql : String) : List (Nat × Nat) :=
  let spans := statementSpans sql
  if f.oversizedSpan then
    match spans.reverse with
    | (loc, len) :: rest => ((loc, len + 1000) :: rest).reverse
    | [] => []
  else spans

/-- A boxed split statement. -/
def allocStatement (span : Nat × Nat) : Call State (Option (Int32 × Int32)) := do
  track (.statement (Int32.ofNat span.1) (Int32.ofNat span.2))
  pure (some (Int32.ofNat span.1, Int32.ofNat span.2))

/-- A split result over the statements of an input: a boxed record per statement, then the
array of them unless it is empty. -/
def splitReply (f : Flags) (sql : String) (checkSyntax : Bool) : Call State SplitReply := do
  match ← (if checkSyntax then syntaxError sql else pure none) with
  | some err => pure { error := some err }
  | none =>
    let stmts ← (splitSpans f sql).mapM allocStatement
    if stmts.isEmpty then return {}
    track (.statements stmts)
    pure { stmts := some stmts, count := Int32.ofNat stmts.length }

/-- Deparses an encoded tree: its statement texts joined by `; `. -/
def deparseTree (f : Flags) (tree : Payload) : Call State TextReply := do
  dispatch none
  match statementTexts tree with
  | some texts => pure { text := some (← allocText f ("; ".intercalate texts)) }
  | none => pure { error := some (← allocError "failed to unpack protobuf parse tree" 0) }

/-- A boxed comment record with its text. -/
def allocComment (f : Flags) (c : Comment) : Call State (Option CommentRecord) := do
  let text ← allocText f c.text
  let record : CommentRecord :=
    { matchLocation := Int32.ofNat c.location
      newlinesBefore := Int32.ofNat c.newlinesBefore
      newlinesAfter := Int32.ofNat c.newlinesAfter
      text := some text }
  track (.comment record)
  pure (some record)

/-- The toy engine with its flags. -/
def engine (f : Flags) : Engine State where
  normalize bs := do
    dispatch none
    let sql ← input bs
    match ← syntaxError sql with
    | some err => pure { error := some err }
    | none => pure { text := some (← allocText f (normalize sql)) }
  normalizeUtility bs := do
    dispatch none
    let sql ← input bs
    pure { text := some (← allocText f (Text.toLower (normalize sql))) }
  scan bs := do
    dispatch none
    let sql ← input bs
    pure { payload := ← allocPayload f (scanned sql).encode }
  parseJson bs options := do
    dispatch (some options)
    let sql ← input bs
    match ← syntaxError sql with
    | some err => pure { error := some err }
    | none => pure { text := some (← allocText f (jsonTree sql)) }
  parseProtobuf bs options := do
    dispatch (some options)
    let sql ← input bs
    match ← syntaxError sql with
    | some err => pure { error := some err }
    | none =>
      let t := parseTree sql
      pure { payload := ← allocPayload f (if t.stmts.isEmpty then [] else t.encode) }
  parsePlpgsql bs := do
    dispatch none
    let sql ← input bs
    match ← syntaxError sql with
    | some err => pure { error := some err }
    | none =>
      pure { text := some (← allocText f "[\x7b\"PLpgSQL_function\":\x7b\"datums\":[]\x7d\x7d]") }
  fingerprint bs options := do
    dispatch (some options)
    let sql ← input bs
    match ← syntaxError sql with
    | some err => pure { error := some err }
    | none =>
      let value := fnv1a (Utf8.encode (Text.toLower (normalize sql)))
      pure { value, text := some (← allocText f (Hex.fixed 16 value.toNat)) }
  splitWithScanner bs := do
    dispatch none
    let sql ← input bs
    splitReply f sql false
  splitWithParser bs := do
    dispatch none
    let sql ← input bs
    splitReply f sql true
  deparse tree := deparseTree f tree
  deparseWithOptions tree o := do
    let captured : CapturedOptions :=
      { prettyPrint := o.prettyPrint, indentSize := o.indentSize, maxLineLength := o.maxLineLength
        trailingNewline := o.trailingNewline, commasStartOfLine := o.commasStartOfLine
        comments := (o.comments.getD []).map fun c =>
          (c.matchLocation, c.newlinesBefore, c.newlinesAfter, Utf8.lossy (c.text.getD [])) }
    modify fun s => { s with lastDeparseOptions := some captured }
    let r ← deparseTree f tree
    if r.error.isNone && o.prettyPrint && o.trailingNewline then
      -- the text is freed and allocated again with a newline
      modify (takeBack (cstringFreed r.text))
      pure { r with text := some (← allocBytes ((r.text.getD []) ++ [10])) }
    else pure r
  deparseComments bs := do
    if f.withoutOptional then return none
    dispatch none
    let sql ← input bs
    let records ← (comments sql).mapM (allocComment f)
    if records.isEmpty then return some {}
    track (.comments records)
    pure (some { comments := some records, count := records.length })
  summary bs options _ := do
    if f.withoutOptional then return none
    dispatch (some options)
    let sql ← input bs
    match ← syntaxError sql with
    | some err => pure (some { error := some err })
    | none =>
      pure (some { payload := ← allocPayload f (({ version } : Tree.ParseTree).encode) })
  release := release

end Toy
end PgBinding
