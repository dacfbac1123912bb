import PgBinding.Engine.Basic
/-!
A scripted engine: it answers each call with the next response of a script, logs every call it
receives, and keeps a ledger of the results it handed out and got back.

A call with no response left is answered by the empty response. The ledger counts dispatched
results and released ones; a release with no result outstanding is a bad free. A correct layer
therefore leaves `released = dispatched` and nothing live after every operation.

The engine comes in two forms. Plugged in directly, it lacks an optional entry point exactly when
the response says so; the call is then still logged (as not counted) and consumes its response,
but nothing is dispatched. Behind a loaded library, the library decides which entry points exist
and an absent one is never reached; the library's own set-up and tear-down are logged as calls
that dispatch nothing.
-/
namespace PgBinding
namespace Scripted

/-- One scripted answer. A key that does not apply to the entry point answering is ignored. -/
structure Response where
  error : Option NativeError := none
  normalizedQuery : Option Bytes := none
  /-- The parse tree as JSON text (for the JSON parse). -/
  parseTreeText : Option Bytes := none
  /-- The parse tree as a protobuf payload (for the tree parse). -/
  parseTree : Payload := {}
  plpgsqlFuncs : Option Bytes := none
  fingerprint : UInt64 := 0
  fingerprintText : Option Bytes := none
  stmts : Option (List (Option (Int32 × Int32))) := none
  /-- The statement count; the array's length when not given. -/
  stmtCount : Option Int32 := none
  scan : Payload := {}
  query : Option Bytes := none
  /-- The entry point is missing (optional entry points only). -/
  absent : Bool := false
  comments : Option (List (Option CommentRecord)) := none
  /-- The comment count; the array's length when not given. -/
  commentCount : Option Nat := none
  summary : Payload := {}
  deriving Repr

/-- What a call received. -/
inductive Argument where
  | none
  | input (bytes : Bytes)
  | withOptions (bytes : Bytes) (options : Int32)
  | summary (bytes : Bytes) (options truncateLimit : Int32)
  | tree (p : Payload)
  | treeWithOptions (p : Payload) (o : NativeDeparseOptions)
  deriving Repr

/-- One logged call: the entry point, whether it dispatched a result, and its argument. -/
structure CallRecord where
  entry : String
  counted : Bool
  argument : Argument
  deriving Repr

/-- Results handed out and handed back. -/
structure Ledger where
  dispatched : Nat := 0
  released : Nat := 0
  badFrees : Nat := 0
  deriving Repr, DecidableEq

/-- Results handed out and not handed back yet. -/
def Ledger.live (l : Ledger) : Nat := l.dispatched - l.released

/-- The engine's state: the responses still to give, the calls so far, the ledger, and the
diagnostics reported to it. -/
structure State where
  script : List Response := []
  calls : List CallRecord := []
  ledger : Ledger := {}
  notes : List Log.Record := []
  deriving Repr

/-- A fresh engine with a script. -/
def State.ofScript (script : List Response) : State := { script }

/-- Takes the next response. -/
def pop : Call State Response := fun s =>
  match s.script with
  | [] => .ok {} s
  | r :: rest => .ok r { s with script := rest }

/-- Logs a call. -/
def log (entry : String) (counted : Bool) (argument : Argument) : Call State Unit :=
  modify fun s => { s with calls := s.calls ++ [⟨entry, counted, argument⟩] }

/-- Logs a counted call, counts its result, and takes its response. -/
def dispatch (entry : String) (argument : Argument) : Call State Response := do
  log entry true argument
  modify fun s => { s with ledger := { s.ledger with dispatched := s.ledger.dispatched + 1 } }
  pop

/-- Takes a result back. -/
def release (sh : Shape) (_ : sh.Record) (s : State) : State :=
  let l := s.ledger
  { s with ledger := { l with released := l.released + 1
                              badFrees := l.badFrees + if l.dispatched ≤ l.released then 1 else 0 } }

/-- The split answer of a response. -/
def Response.splitReply (r : Response) : SplitReply :=
  { stmts := r.stmts
    count := r.stmtCount.getD (Int32.ofNat ((r.stmts.map List.length).getD 0))
    error := r.error }

/-- The comments answer of a response. -/
def Response.commentsReply (r : Response) : CommentsReply :=
  { comments := r.comments
    count := r.commentCount.getD ((r.comments.map List.length).getD 0)
    error := r.error }

/-- The deparse answer of a response. -/
def Response.deparseReply (r : Response) : TextReply := { text := r.query, error := r.error }

/-- The summary answer of a response. -/
def Response.summaryReply (r : Response) : PayloadReply :=
  { payload := r.summary, error := r.error }

/-- The engine as the library's exported symbols: every entry point answers. -/
def stub : Engine State where
  normalize input := do
    let r ← dispatch "normalize" (.input input)
    pure { text := r.normalizedQuery, error := r.error }
  normalizeUtility input := do
    let r ← dispatch "normalize_utility" (.input input)
    pure { text := r.normalizedQuery, error := r.error }
  scan input := do
    let r ← dispatch "scan" (.input input)
    pure { payload := r.scan, error := r.error }
  parseJson input options := do
    let r ← dispatch "parse_json" (.withOptions input options)
    pure { text := r.parseTreeText, error := r.error }
  parseProtobuf input options := do
    let r ← dispatch "parse_protobuf" (.withOptions input options)
    pure { payload := r.parseTree, error := r.error }
  parsePlpgsql input := do
    let r ← dispatch "parse_plpgsql" (.input input)
    pure { text := r.plpgsqlFuncs, error := r.error }
  fingerprint input options := do
    let r ← dispatch "fingerprint" (.withOptions input options)
    pure { value := r.fingerprint, text := r.fingerprintText, error := r.error }
  splitWithScanner input := do
    let r ← dispatch "split_with_scanner" (.input input)
    pure r.splitReply
  splitWithParser input := do
    let r ← dispatch "split_with_parser" (.input input)
    pure r.splitReply
  deparse tree := do
    let r ← dispatch "deparse_protobuf" (.tree tree)
    pure r.deparseReply
  deparseWithOptions tree o := do
    let r ← dispatch "deparse_protobuf_opts" (.treeWithOptions tree o)
    pure r.deparseReply
  deparseComments input := do
    let r ← dispatch "deparse_comments_for_query" (.input input)
    pure (some r.commentsReply)
  summary input options limit := do
    let r ← dispatch "summary" (.summary input options limit)
    pure (some r.summaryReply)
  release := release
  init s := { s with calls := s.calls ++ [⟨"init", false, .none⟩] }
  exit s := { s with calls := s.calls ++ [⟨"exit", false, .none⟩] }
  note n s := { s with notes := s.notes ++ [n] }

/-- An optional entry point plugged in directly: missing when the next response says so, and
then logged as not counted without dispatching. -/
def optional {α : Type} (entry : String) (argument : Argument) (answer : Response → α) :
    Call State (Option α) := do
  match (← get).script with
  | r :: _ =>
    if r.absent then
      log entry false argument
      let _ ← pop
      return none
  | [] => pure ()
  let r ← dispatch entry argument
  pure (some (answer r))

/-- The engine plugged in directly. -/
def direct : Engine State :=
  { stub with
    deparseComments := fun input =>
      optional "deparse_comments_for_query" (.input input) Response.commentsReply
    summary := fun input options limit =>
      optional "summary" (.summary input options limit) Response.summaryReply
    init := id
    exit := id }

end Scripted
end PgBinding
