import Mathlib
import PgBinding.Parser.Read
import PgBinding.Parser.Deparse
/-!
# Operations of the parser and the one call each makes

The nineteen operations of the parser are written out once here as data, so that statements
can range over all of them and over sessions of them. Each is one of three kinds of work:
checking its input, making one call to one entry point of the engine, and copying the result
out before handing it back.

The entry points form a catalog: what each receives, what result record it returns, which
error slot that record has, and of which shape the result is released as. An operation names
its entry point, marshals its argument (or fails the precondition on its input), and names the
materializer that reads the result.

The statement this file exists for is `Operation.exec_eq`: every operation is, up to its
precondition, the lifecycle of one call of its own entry point, released as that entry point's
shape.
-/

namespace PgBinding

variable {σ : Type}

/-! ## The entry points -/

/-- The entry points of an engine that produce a result. -/
inductive Entry where
  | normalize | normalizeUtility | scan | parseJson | parseProtobuf | parsePlpgsql
  | fingerprint | splitWithScanner | splitWithParser | deparse | deparseWithOptions
  | deparseComments | summary
  deriving Repr, DecidableEq

namespace Entry

/-- What an entry point receives: the input text, the options word, the encoded tree, the
deparse options, the truncation limit. -/
@[reducible] def Argument : Entry → Type
  | .normalize | .normalizeUtility | .scan | .parsePlpgsql | .splitWithScanner
  | .splitWithParser | .deparseComments => Bytes
  | .parseJson | .parseProtobuf | .fingerprint => Bytes × Int32
  | .deparse => Payload
  | .deparseWithOptions => Payload × NativeDeparseOptions
  | .summary => Bytes × Int32 × Int32

/-- The shape a result is released as: one per kind of result record, so the two normalizers,
the two splitters and the two deparsers share theirs. -/
@[reducible] def shape : Entry → Shape
  | .normalize | .normalizeUtility => .normalize
  | .scan => .scan
  | .parseJson => .parse
  | .parseProtobuf => .parseProtobuf
  | .parsePlpgsql => .parsePlpgsql
  | .fingerprint => .fingerprint
  | .splitWithScanner | .splitWithParser => .split
  | .deparse | .deparseWithOptions => .deparse
  | .deparseComments => .deparseComments
  | .summary => .summary

/-- The result record an entry point returns: the record of the shape it is released as. -/
@[reducible] def Reply (en : Entry) : Type := en.shape.Record

/-- The error slot of a result record. -/
def errorOf : (en : Entry) → en.Reply → Option NativeError
  | .normalize, r | .normalizeUtility, r | .parseJson, r | .parsePlpgsql, r | .deparse, r
  | .deparseWithOptions, r => TextReply.error r
  | .scan, r | .parseProtobuf, r | .summary, r => PayloadReply.error r
  | .fingerprint, r => FingerprintReply.error r
  | .splitWithScanner, r | .splitWithParser, r => SplitReply.error r
  | .deparseComments, r => CommentsReply.error r

/-- The library symbol of an entry point. -/
def symbol : Entry → String
  | .normalize => "pg_query_normalize"
  | .normalizeUtility => "pg_query_normalize_utility"
  | .scan => "pg_query_scan"
  | .parseJson => "pg_query_parse_opts"
  | .parseProtobuf => "pg_query_parse_protobuf_opts"
  | .parsePlpgsql => "pg_query_parse_plpgsql"
  | .fingerprint => "pg_query_fingerprint_opts"
  | .splitWithScanner => "pg_query_split_with_scanner"
  | .splitWithParser => "pg_query_split_with_parser"
  | .deparse => "pg_query_deparse_protobuf"
  | .deparseWithOptions => "pg_query_deparse_protobuf_opts"
  | .deparseComments => "pg_query_deparse_comments_for_query"
  | .summary => "pg_query_summary"

end Entry

/-- Calls an entry point of an engine. A required entry point always answers; an optional one
answers `none` when the engine lacks it. -/
def Engine.entry (e : Engine σ) : (en : Entry) → en.Argument → Call σ (Option en.Reply)
  | .normalize, bs => some <$> e.normalize bs
  | .normalizeUtility, bs => some <$> e.normalizeUtility bs
  | .scan, bs => some <$> e.scan bs
  | .parseJson, (bs, o) => some <$> e.parseJson bs o
  | .parseProtobuf, (bs, o) => some <$> e.parseProtobuf bs o
  | .parsePlpgsql, bs => some <$> e.parsePlpgsql bs
  | .fingerprint, (bs, o) => some <$> e.fingerprint bs o
  | .splitWithScanner, bs => some <$> e.splitWithScanner bs
  | .splitWithParser, bs => some <$> e.splitWithParser bs
  | .deparse, p => some <$> e.deparse p
  | .deparseWithOptions, (p, o) => some <$> e.deparseWithOptions p o
  | .deparseComments, bs => e.deparseComments bs
  | .summary, (bs, o, limit) => e.summary bs o limit

/-! ## The operations -/

/-- What an operation returns when it succeeds. -/
inductive Answer where
  | tree (t : Tree.ParseTree)
  | json (v : Json.Value)
  | text (s : String)
  | fingerprint (f : Parser.Fingerprint)
  | texts (l : List String)
  | spans (l : List StatementSpan)
  | scanned (s : Scan.Scanned)
  | comments (l : List Parser.DeparseComment)
  | bytes (b : Bytes)

/-- One operation of the parser with its arguments. -/
inductive Operation where
  | parse (sql : String) (o : ParseOptions)
  | parseBytes (sql : Bytes) (o : ParseOptions)
  | parseJson (sql : String) (o : ParseOptions)
  | parsePlpgsql (sql : String)
  | normalize (sql : String)
  | normalizeUtility (sql : String)
  | fingerprint (sql : String) (o : ParseOptions)
  | fingerprintBytes (sql : Bytes) (o : ParseOptions)
  | split (sql : String) (a : SplitAlgorithm)
  | splitSpans (sql : String) (a : SplitAlgorithm)
  | splitBytes (sql : Bytes) (a : SplitAlgorithm)
  | scan (sql : String)
  | scanBytes (sql : Bytes)
  | deparse (t : Tree.ParseTree)
  | deparseBytes (tree : Bytes)
  | deparseWithOptions (t : Tree.ParseTree) (o : DeparseOptions)
  | deparseWithComments (t : Tree.ParseTree) (o : DeparseOptions)
      (comments : List Parser.DeparseComment)
  | extractComments (sql : String)
  | summary (sql : String) (o : ParseOptions) (truncateLimit : Int32)

/-- The text of a span read from a split result. Its fields were C ints, so its range does not
overflow (`Parser.splitSpans_end_le`), and the text is cut out at that range. -/
def StatementSpan.recordText (span : StatementSpan) (sql : String) : Except Error String :=
  span.cut sql span.location (span.location + span.length)

namespace Operation

/-- Runs an operation on an engine. -/
def exec (e : Engine σ) : Operation → Call σ (Except Error Answer)
  | .parse sql o => (·.map .tree) <$> Parser.parse e sql o
  | .parseBytes sql o => (·.map .tree) <$> Parser.parseBytes e sql o
  | .parseJson sql o => (·.map .json) <$> Parser.parseJson e sql o
  | .parsePlpgsql sql => (·.map .json) <$> Parser.parsePlpgsql e sql
  | .normalize sql => (·.map .text) <$> Parser.normalize e sql
  | .normalizeUtility sql => (·.map .text) <$> Parser.normalizeUtility e sql
  | .fingerprint sql o => (·.map .fingerprint) <$> Parser.fingerprint e sql o
  | .fingerprintBytes sql o => (·.map .fingerprint) <$> Parser.fingerprintBytes e sql o
  | .split sql a => (·.map .texts) <$> Parser.split e sql a
  | .splitSpans sql a => (·.map .spans) <$> Parser.splitSpans e sql a
  | .splitBytes sql a => (·.map .spans) <$> Parser.splitBytes e sql a
  | .scan sql => (·.map .scanned) <$> Parser.scan e sql
  | .scanBytes sql => (·.map .scanned) <$> Parser.scanBytes e sql
  | .deparse t => (·.map .text) <$> Parser.deparse e t
  | .deparseBytes tree => (·.map .text) <$> Parser.deparseBytes e tree
  | .deparseWithOptions t o => (·.map .text) <$> Parser.deparseWithOptions e t o
  | .deparseWithComments t o cs => (·.map .text) <$> Parser.deparseWithComments e t o cs
  | .extractComments sql => (·.map .comments) <$> Parser.extractComments e sql
  | .summary sql o limit => (·.map .bytes) <$> Parser.summary e sql o limit

/-- The entry point an operation calls. -/
@[reducible] def entry : Operation → Entry
  | .parse .. | .parseBytes .. => .parseProtobuf
  | .parseJson .. => .parseJson
  | .parsePlpgsql .. => .parsePlpgsql
  | .normalize .. => .normalize
  | .normalizeUtility .. => .normalizeUtility
  | .fingerprint .. | .fingerprintBytes .. => .fingerprint
  | .split _ .scanner | .splitSpans _ .scanner | .splitBytes _ .scanner => .splitWithScanner
  | .split _ .parser | .splitSpans _ .parser | .splitBytes _ .parser => .splitWithParser
  | .scan .. | .scanBytes .. => .scan
  | .deparse .. | .deparseBytes .. => .deparse
  | .deparseWithOptions .. | .deparseWithComments .. => .deparseWithOptions
  | .extractComments .. => .deparseComments
  | .summary .. => .summary

/-- The argument an operation hands its entry point, or the precondition its input fails. A
text is copied and terminated; caller bytes must already be terminated; deparse options and
comments must fit C ints. -/
def argument : (op : Operation) → Except PreconditionError op.entry.Argument
  | .parse sql o | .parseJson sql o | .fingerprint sql o =>
    (Buffer.ofText sql).map fun b => (b.content, o.bits)
  | .parseBytes sql o | .fingerprintBytes sql o =>
    (Buffer.ofBytes sql).map fun b => (b.content, o.bits)
  | .parsePlpgsql sql | .normalize sql | .normalizeUtility sql | .scan sql
  | .extractComments sql | .split sql .scanner | .split sql .parser
  | .splitSpans sql .scanner | .splitSpans sql .parser => (Buffer.ofText sql).map (·.content)
  | .scanBytes sql | .splitBytes sql .scanner | .splitBytes sql .parser =>
    (Buffer.ofBytes sql).map (·.content)
  | .deparse t => .ok (Payload.ofBytes t.encode)
  | .deparseBytes tree => .ok (Payload.ofBytes tree)
  | .deparseWithOptions t o => (Parser.nativeOptions o []).map (Payload.ofBytes t.encode, ·)
  | .deparseWithComments t o cs =>
    (Parser.nativeOptions o cs).map (Payload.ofBytes t.encode, ·)
  | .summary sql o limit => (Buffer.ofText sql).map fun b => (b.content, o.bits, limit)

open Materialize in
/-- What an operation makes of a result record that carries no error. -/
def materialize : (op : Operation) → op.entry.Reply → Except Error Answer
  | .parse .., r | .parseBytes .., r => (do
      let bs ← payloadBytes "parse tree" r.payload
      (Tree.ParseTree.decode bs).mapError (Error.decode "parse tree")).map .tree
  | .parseJson .., r => (jsonPayload "parse tree" r.text).map .json
  | .parsePlpgsql .., r => (jsonPayload "PL/pgSQL functions" r.text).map .json
  | .normalize .., r | .normalizeUtility .., r => (utf8String "normalized query" r.text).map .text
  | .fingerprint .., r | .fingerprintBytes .., r =>
    ((utf8String "fingerprint" r.text).map fun text => (⟨r.value, text⟩ : Parser.Fingerprint)).map
      .fingerprint
  | .split sql .scanner, r | .split sql .parser, r =>
    (Parser.spansOf r >>= fun spans => spans.mapM (·.recordText sql)).map .texts
  | .splitSpans _ .scanner, r | .splitSpans _ .parser, r | .splitBytes _ .scanner, r
  | .splitBytes _ .parser, r => (Parser.spansOf r).map .spans
  | .scan .., r | .scanBytes .., r => (do
      let bs ← payloadBytes "scan result" r.payload
      (Scan.Scanned.decode bs).mapError (Error.decode "scan result")).map .scanned
  | .deparse .., r | .deparseBytes .., r | .deparseWithOptions .., r
  | .deparseWithComments .., r => (utf8String "deparsed query" r.text).map .text
  | .extractComments .., r => (Parser.commentsOf r).map .comments
  | .summary .., r => (payloadBytes "summary" r.payload).map .bytes

end Operation

/-! ## The lifecycle of one call -/

namespace Parser

variable {α : Type}

/-- What the lifecycle makes of a result record: the engine's error when the record carries
one, whatever else it holds, and otherwise what the materializer reads from it. -/
def outcome {R : Type} (err : R → Option NativeError) (mat : R → Except Error α) (raw : R) :
    Except Error α :=
  match err raw with
  | some record => .error (.engine (EngineError.ofNative record))
  | none => mat raw

/-- The diagnostic recorded before a call is dispatched. -/
def dispatchRecord (sh : Shape) : Log.Record :=
  ⟨.debug, "pgquery::parser", s!"dispatching {sh.name}"⟩

/-- The lifecycle never fails: it answers the outcome, and apart from diagnostics its only
effect is one release of the result's shape. -/
theorem extract_apply (e : Engine σ) (sh : Shape) (err : sh.Record → Option NativeError)
    (mat : sh.Record → Except Error α) (raw : sh.Record) (s : σ) :
    ∃ s', extract e sh err mat raw s = .ok (outcome err mat raw) s' ∧
      ∀ {ω : Type} (view : σ → ω) (f : ω → ω), (∀ r t, view (e.note r t) = view t) →
        (∀ t, view (e.release sh raw t) = f (view t)) → view s' = f (view s) := by
  unfold extract outcome
  cases h : err raw with
  | none => exact ⟨_, rfl, fun view f hnote hrel => by simp [hnote, hrel]⟩
  | some record => exact ⟨_, rfl, fun view f hnote hrel => by simp [hnote, hrel]⟩

/-- The lifecycle of an optional entry point: after the dispatch diagnostic the call is made
once; a panic propagates, an absent entry point is unsupported, and a result goes through
`extract`. -/
theorem runOptional_apply (e : Engine σ) (sh : Shape) (sym : String)
    (inv : Call σ (Option sh.Record)) (err : sh.Record → Option NativeError)
    (mat : sh.Record → Except Error α) (s : σ) :
    runOptional e sh sym inv err mat s =
      match inv (e.note (dispatchRecord sh) s) with
      | .ok none s' => .ok (.error (.unsupported sym)) s'
      | .ok (some raw) s' => extract e sh err mat raw s'
      | .error p s' => .error p s' := by
  show EStateM.run _ s = _
  simp only [note, EStateM.run_bind, EStateM.run_modify, dispatchRecord]
  simp only [EStateM.run]
  rcases inv _ with ⟨_ | raw, s'⟩ | ⟨p, s'⟩ <;> rfl

/-- The lifecycle of a required entry point: after the dispatch diagnostic the call is made
once; a panic propagates and a result goes through `extract`. -/
theorem run_apply (e : Engine σ) (sh : Shape) (inv : Call σ sh.Record)
    (err : sh.Record → Option NativeError) (mat : sh.Record → Except Error α) (s : σ) :
    run e sh inv err mat s =
      match inv (e.note (dispatchRecord sh) s) with
      | .ok raw s' => extract e sh err mat raw s'
      | .error p s' => .error p s' := by
  show EStateM.run _ s = _
  simp only [note, EStateM.run_bind, EStateM.run_modify, dispatchRecord]
  simp only [EStateM.run]
  rcases inv _ with ⟨raw, s'⟩ | ⟨p, s'⟩ <;> rfl

/-- A result that carries no error is answered with what the materializer reads from it. -/
theorem run_of_answer (e : Engine σ) (sh : Shape) {inv : Call σ sh.Record}
    {err : sh.Record → Option NativeError} (mat : sh.Record → Except Error α) {s s' : σ}
    {raw : sh.Record}
    (hcall : inv (e.note (dispatchRecord sh) s) = .ok raw s')
    (herr : err raw = none) : ∃ t, run e sh inv err mat s = .ok (mat raw) t := by
  obtain ⟨t, hx, -⟩ := extract_apply e sh err mat raw s'
  refine ⟨t, ?_⟩
  rw [run_apply, hcall]
  dsimp only
  rw [hx, outcome, herr]

/-- Likewise for an optional entry point the engine provides. -/
theorem runOptional_of_answer (e : Engine σ) (sh : Shape) (sym : String)
    {inv : Call σ (Option sh.Record)} {err : sh.Record → Option NativeError}
    (mat : sh.Record → Except Error α) {s s' : σ} {raw : sh.Record} (hcall : inv (e.note (dispatchRecord sh) s) = .ok (some raw) s')
    (herr : err raw = none) : ∃ t, runOptional e sh sym inv err mat s = .ok (mat raw) t := by
  obtain ⟨t, hx, -⟩ := extract_apply e sh err mat raw s'
  refine ⟨t, ?_⟩
  rw [runOptional_apply, hcall]
  dsimp only
  rw [hx, outcome, herr]

/-- A required entry point is an optional one that always answers. -/
theorem run_eq_runOptional (e : Engine σ) (sh : Shape) (sym : String) {α : Type}
    (inv : Call σ sh.Record) (err : sh.Record → Option NativeError)
    (mat : sh.Record → Except Error α) :
    run e sh inv err mat = runOptional e sh sym (some <$> inv) err mat := by
  funext s
  simp [run, runOptional]

/-- Post-processing that keeps every error moves into the materializer. -/
theorem map_runOptional (e : Engine σ) (sh : Shape) (sym : String) {α β : Type}
    (inv : Call σ (Option sh.Record)) (err : sh.Record → Option NativeError)
    (mat : sh.Record → Except Error α)
    (g : Except Error α → Except Error β) (hg : ∀ x, g (.error x) = .error x) :
    g <$> runOptional e sh sym inv err mat = runOptional e sh sym inv err (g ∘ mat) := by
  funext s
  show EStateM.run _ s = EStateM.run _ s
  simp only [map_eq_pure_bind, runOptional, extract, note, EStateM.run_bind, EStateM.run_modify,
    EStateM.run_pure]
  cases EStateM.run inv _ with
  | ok x s' =>
    cases x with
    | none => simp [hg]
    | some raw =>
      cases h : err raw <;>
        simp only [h, hg, Function.comp, EStateM.run_bind, EStateM.run_modify,
          EStateM.run_pure]
  | error p s' => rfl

/-- The lifecycle of a required entry point seen as an optional one is its own. -/
theorem runOptional_some (e : Engine σ) (sh : Shape) (sym : String) {α : Type}
    (inv : Call σ sh.Record) (err : sh.Record → Option NativeError)
    (mat : sh.Record → Except Error α) :
    runOptional e sh sym (some <$> inv) err mat = run e sh inv err mat :=
  (run_eq_runOptional e sh sym inv err mat).symm

theorem map_run (e : Engine σ) (sh : Shape) {α β : Type} (inv : Call σ sh.Record)
    (err : sh.Record → Option NativeError) (mat : sh.Record → Except Error α)
    (g : Except Error α → Except Error β) (hg : ∀ x, g (.error x) = .error x) :
    g <$> run e sh inv err mat = run e sh inv err (g ∘ mat) := by
  rw [run_eq_runOptional e sh "", map_runOptional _ _ _ _ _ _ _ hg, ← run_eq_runOptional]

/-- A lifecycle answers a value only as the materializer read it from a result record. -/
theorem run_eq_ok (e : Engine σ) (sh : Shape) {inv : Call σ sh.Record}
    {err : sh.Record → Option NativeError} {mat : sh.Record → Except Error α} {s s' : σ} {x : α}
    (h : run e sh inv err mat s = .ok (.ok x) s') : ∃ raw, mat raw = .ok x := by
  rw [run_apply] at h
  rcases hinv : inv (e.note (dispatchRecord sh) s) with ⟨raw, t⟩ | ⟨p, t⟩
  · rw [hinv] at h
    obtain ⟨t', hx, -⟩ := extract_apply e sh err mat raw t
    dsimp only at h
    rw [hx] at h
    have hout : outcome err mat raw = .ok x := (EStateM.Result.ok.inj h).1
    -- a result with an error record is answered with the engine's error instead
    unfold outcome at hout
    cases herr : err raw with
    | none => rw [herr] at hout; exact ⟨raw, hout⟩
    | some record => rw [herr] at hout; cases hout
  · rw [hinv] at h
    cases h

/-! ## Cutting the spans of a split result -/

/-- A span read from a statement record has both fields below `2 ^ 31`: they were C ints. -/
theorem spanOf_lt {x : Option (Int32 × Int32)} {span : StatementSpan} (h : spanOf x = .ok span) :
    span.location < 2 ^ 31 ∧ span.length < 2 ^ 31 := by
  cases x with
  | none =>
    cases h
    exact ⟨by decide, by decide⟩
  | some p =>
    obtain ⟨loc, len⟩ := p
    have hloc := Int32.toInt_lt loc
    have hlen := Int32.toInt_lt len
    by_cases hl : loc.toInt < 0
    · simp [spanOf, Materialize.nonNegative, hl, bind, Except.bind] at h
    by_cases hn : len.toInt < 0
    · simp [spanOf, Materialize.nonNegative, hl, hn, bind, Except.bind] at h
    simp only [spanOf, Materialize.nonNegative, hl, hn, if_false, bind, Except.bind, pure,
      Except.pure, Except.ok.injEq] at h
    subst h
    constructor <;> dsimp only <;> omega

theorem mapM_spanOf_lt : ∀ {xs : List (Option (Int32 × Int32))} {spans : List StatementSpan},
    xs.mapM spanOf = .ok spans → ∀ span ∈ spans, span.location < 2 ^ 31 ∧ span.length < 2 ^ 31
  | [], spans, h => by
    cases h
    exact fun _ hspan => absurd hspan List.not_mem_nil
  | x :: xs, spans, h => by
    rw [List.mapM_cons] at h
    cases hx : spanOf x with
    | error err => rw [hx] at h; cases h
    | ok span =>
      cases hxs : xs.mapM spanOf with
      | error err => rw [hx, hxs] at h; cases h
      | ok rest =>
        rw [hx, hxs] at h
        cases h
        intro y hy
        rcases List.mem_cons.1 hy with rfl | hy
        · exact spanOf_lt hx
        · exact mapM_spanOf_lt hxs y hy

theorem spansOf_lt {r : SplitReply} {spans : List StatementSpan} (h : spansOf r = .ok spans) :
    ∀ span ∈ spans, span.location < 2 ^ 31 ∧ span.length < 2 ^ 31 := by
  unfold spansOf at h
  cases hcount : Materialize.nonNegative "statement count" r.count with
  | error err => rw [hcount] at h; cases h
  | ok count =>
    cases hstmts : Materialize.pointerArray "statement list" r.stmts count with
    | error err => rw [hcount] at h; simp only [bind, Except.bind, hstmts] at h; cases h
    | ok stmts =>
      rw [hcount] at h
      simp only [bind, Except.bind, hstmts] at h
      exact mapM_spanOf_lt h

/-- The spans a split answers have fields below `2 ^ 31`. -/
theorem splitSpans_lt {e : Engine σ} {sql : String} {a : SplitAlgorithm} {s s' : σ}
    {spans : List StatementSpan} (h : splitSpans e sql a s = .ok (.ok spans) s') :
    ∀ span ∈ spans, span.location < 2 ^ 31 ∧ span.length < 2 ^ 31 := by
  unfold splitSpans withBuffer at h
  cases hb : Buffer.ofText sql with
  | error p => rw [hb] at h; cases h
  | ok buf =>
    rw [hb] at h
    unfold splitBuffer at h
    obtain ⟨raw, hraw⟩ := run_eq_ok e .split h
    exact spansOf_lt hraw

/-- The ends of the spans a split answers stay below `usizeMax`. -/
theorem splitSpans_end_le {e : Engine σ} {sql : String} {a : SplitAlgorithm} {s s' : σ}
    {spans : List StatementSpan} (h : splitSpans e sql a s = .ok (.ok spans) s') :
    ∀ span ∈ spans, span.location + span.length ≤ usizeMax := fun span hspan => by
  have := splitSpans_lt h span hspan
  unfold usizeMax
  omega

/-- A span whose end does not overflow is cut out of the text at its range. -/
theorem slice_of_le {span : StatementSpan} (sql : String)
    (h : span.location + span.length ≤ usizeMax) : span.slice sql = .ok (span.recordText sql) := by
  simp only [StatementSpan.slice, StatementSpan.range, if_pos h, Except.map,
    StatementSpan.recordText]

theorem sliceSpans_of_le (sql : String) : ∀ {spans : List StatementSpan},
    (∀ span ∈ spans, span.location + span.length ≤ usizeMax) →
      sliceSpans sql spans = .ok (spans.mapM (·.recordText sql))
  | [], _ => rfl
  | span :: spans, h => by
    rw [sliceSpans, slice_of_le sql (h span List.mem_cons_self), List.mapM_cons]
    cases span.recordText sql with
    | error err => rfl
    | ok t =>
      rw [sliceSpans_of_le sql fun x hx => h x (List.mem_cons_of_mem span hx)]
      cases spans.mapM (·.recordText sql) <;> rfl

/-- Splitting into texts is splitting into spans and cutting each out of the text: the spans
come from C ints, so no range overflows and nothing panics after the spans are read. -/
theorem split_eq (e : Engine σ) (sql : String) (a : SplitAlgorithm) :
    split e sql a =
      (fun x => x >>= fun spans => spans.mapM (·.recordText sql)) <$> splitSpans e sql a := by
  funext s
  show EStateM.bind _ _ s = EStateM.map _ _ s
  unfold EStateM.bind EStateM.map
  rcases h : splitSpans e sql a s with ⟨_ | spans, t⟩ | ⟨p, t⟩
  · rfl
  · dsimp only
    rw [sliceSpans_of_le sql (splitSpans_end_le h)]
    rfl
  · rfl

end Parser

/-! ## Every operation is one call of its entry point -/

namespace Operation

/-- Continues with an argument that passed its precondition; otherwise fails with the
precondition and touches nothing. -/
def checked {α β : Type} (a : Except PreconditionError α) (k : α → Call σ (Except Error β)) :
    Call σ (Except Error β) :=
  match a with
  | .error p => pure (.error (.precondition p))
  | .ok x => k x

theorem checked_map {α β γ : Type} (a : Except PreconditionError α) (f : α → β)
    (k : β → Call σ (Except Error γ)) : checked (a.map f) k = checked a (k ∘ f) := by
  cases a <;> rfl

theorem withBuffer_eq_checked {β : Type} (b : Except PreconditionError Buffer)
    (k : Buffer → Call σ (Except Error β)) : Parser.withBuffer b k = checked b k := by
  cases b <;> rfl

/-- Post-processing that keeps every error moves inside the precondition check. -/
theorem map_checked {α β γ : Type} (g : Except Error β → Except Error γ)
    (hg : ∀ x, g (.error x) = .error x) (a : Except PreconditionError α)
    (k : α → Call σ (Except Error β)) : g <$> checked a k = checked a (fun x => g <$> k x) := by
  cases a with
  | error p => funext s; simp [checked, hg]
  | ok x => rfl

/-- Deparsing with options checks them exactly as a buffer is checked. -/
theorem deparseWithComments_eq_checked (e : Engine σ) (t : Tree.ParseTree) (o : DeparseOptions)
    (cs : List Parser.DeparseComment) :
    Parser.deparseWithComments e t o cs = checked (Parser.nativeOptions o cs) fun native =>
      Parser.run e .deparse (e.deparseWithOptions (Payload.ofBytes t.encode) native) (·.error)
        fun r => Materialize.utf8String "deparsed query" r.text := by
  unfold Parser.deparseWithComments
  cases Parser.nativeOptions o cs <;> rfl

theorem exec_eq (e : Engine σ) (op : Operation) :
    op.exec e = checked op.argument fun arg =>
      Parser.runOptional e op.entry.shape op.entry.symbol (e.entry op.entry arg)
        op.entry.errorOf op.materialize := by
  cases op <;> try (cases ‹SplitAlgorithm›)
  all_goals
    simp only [exec, argument, Parser.parse, Parser.parseBytes, Parser.parseBuffer,
      Parser.parseJson, Parser.parsePlpgsql, Parser.normalize, Parser.normalizeUtility,
      Parser.fingerprint, Parser.fingerprintBytes, Parser.fingerprintBuffer, Parser.split_eq,
      Parser.splitSpans, Parser.splitBytes, Parser.splitBuffer, Parser.scan, Parser.scanBytes,
      Parser.scanBuffer, Parser.deparse, Parser.deparseBytes, Parser.deparseWithOptions,
      deparseWithComments_eq_checked, Parser.extractComments, Parser.summary, withBuffer_eq_checked,
      checked_map, map_checked (Except.map _) (fun _ => rfl),
      Parser.map_run _ _ _ _ _ (Except.map _) (fun _ => rfl),
      Parser.map_runOptional _ _ _ _ _ _ (Except.map _) (fun _ => rfl), Engine.entry,
      Function.comp_def, entry, Entry.shape]
  case split.scanner | split.parser =>
    -- the texts are cut out of the spans after the lifecycle, which keeps its errors
    rw [Functor.map_map, map_checked]
    · congr 1
      funext b
      rw [Parser.map_run, Parser.runOptional_some]
      · rfl
      · intro x; rfl
    · intro x; rfl
  -- a required entry point's answer is wrapped in some only to share the optional lifecycle
  all_goals first
    | rfl
    | exact (Parser.runOptional_some ..).symm
    | (congr 1; funext x; exact (Parser.runOptional_some ..).symm)

/-- An operation, run: when its input fails the precondition nothing happens at all; otherwise
its entry point is called once, after the dispatch diagnostic, and the lifecycle handles what it
answers. -/
theorem exec_apply (e : Engine σ) (op : Operation) (s : σ) :
    op.exec e s =
      match op.argument with
      | .error p => .ok (.error (.precondition p)) s
      | .ok arg =>
        match e.entry op.entry arg (e.note (Parser.dispatchRecord op.entry.shape) s) with
        | .ok none s' => .ok (.error (.unsupported op.entry.symbol)) s'
        | .ok (some raw) s' =>
          Parser.extract e op.entry.shape op.entry.errorOf op.materialize raw s'
        | .error p s' => .error p s' := by
  rw [exec_eq]
  cases op.argument with
  | error p => rfl
  | ok arg =>
    dsimp only [checked]
    rw [Parser.runOptional_apply]
    rcases e.entry op.entry arg (e.note (Parser.dispatchRecord op.entry.shape) s) with
      ⟨_ | raw, s'⟩ | ⟨p, s'⟩ <;> rfl

end Operation

/-! ## Sessions -/

/-- The state a call leaves, whether it answers or panics. -/
def Call.after {α : Type} (c : Call σ α) (s : σ) : σ :=
  match c s with
  | .ok _ s' => s'
  | .error _ s' => s'

/-- Operations run one after another on one engine, each from the state the one before left;
a step that panics still hands its state on. -/
def Operation.session (e : Engine σ) (ops : List Operation) (s : σ) : σ :=
  ops.foldl (fun s op => (op.exec e).after s) s

@[simp] theorem Operation.session_nil (e : Engine σ) (s : σ) : Operation.session e [] s = s := rfl

@[simp] theorem Operation.session_cons (e : Engine σ) (op : Operation) (ops : List Operation)
    (s : σ) : Operation.session e (op :: ops) s = Operation.session e ops ((op.exec e).after s) :=
  rfl

end PgBinding
