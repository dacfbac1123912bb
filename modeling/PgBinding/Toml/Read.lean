import PgBinding.Toml.Grammar
import PgBinding.Toml.Error
/-!
Reading a whole TOML document into its root table.

The document is read line by line: comments, blank lines, `key = value` lines and table
headers. Keys go into the table of the last header, which is kept apart until the next header
closes it and files it under its path. Tables named on the way to a header are made implicit,
and may be opened by a header of their own once; tables made by dotted keys only grow by dotted
keys; nothing is defined twice.
-/
namespace PgBinding
namespace Toml

/-- Runs `f` on the entries of the table at `path` below `es`, where `form` is how the table of
`es` came to be, and puts the result back. Missing tables on the way are made: implicit, and
dotted when `dotted`. A dotted key may not pass through a table opened by a header, and no path
may pass through a value. `whole` is the full path and `i` the index of `path`'s head in it, for
messages. -/
def descend {α : Type} (whole : List Key) (dotted : Bool)
    (f : TableForm → Entries → Except Conflict (Entries × α)) :
    Nat → List Key → TableForm → Entries → Except Conflict (Entries × α)
  | _, [], form, es => f form es
  | i, k :: ks, _, es =>
    let names := (whole.take (i + 1)).map (·.name)
    match es.lookup k.name with
    | none => do
      let fresh : TableForm := if dotted then .dotted else .implicit
      let (inner, a) ← descend whole dotted f (i + 1) ks fresh []
      pure (es ++ [(k, .table inner fresh none)], a)
    | some (.table inner form span) =>
      if form = .inline ∨ form = .inlineDotted then .error (.extendsValue names "inline table")
      else if dotted && !form.isImplicit then .error (.duplicateKey k.name none)
      else do
        let (inner, a) ← descend whole dotted f (i + 1) ks form inner
        pure (es.replace k.name (.table inner form span), a)
    | some (.tables items span) =>
      match items.getLast? with
      | some (.table inner form tspan) => do
        let (inner, a) ← descend whole dotted f (i + 1) ks form inner
        pure (es.replace k.name (.tables (items.dropLast ++ [.table inner form tspan]) span), a)
      | _ => .error (.duplicateKey k.name none)
    | some other => .error (.extendsValue names other.typeName)

/-- The document read so far: the root table, and the table of the last header, kept apart
until it is closed. -/
structure Builder where
  root : Entries := []
  current : Entries := []
  /-- The path of the last header; empty before the first. -/
  path : List Key := []
  /-- Whether the last header opened an array of tables. -/
  isArray : Bool := false
  /-- Where the last header stands. -/
  span : Option Span := none

/-- The conflict of a header that names a table already defined. -/
def headerConflict (path : List Key) : Conflict :=
  .duplicateKey (path.getLastD ⟨"", "", ⟨0, 0⟩⟩).raw (some (path.dropLast.map (·.name)))

/-- The last key of a path. -/
def lastKey (path : List Key) : Key := path.getLastD ⟨"", "", ⟨0, 0⟩⟩

/-- Puts `value` under the dotted key `prefix ++ [k]` of the current table. -/
def Builder.put (b : Builder) (pre : List Key) (k : Key) (value : Item) : Except Conflict Builder := do
  let (current, ()) ← descend pre true (fun form es =>
      if form.isDotted == pre.isEmpty then .error (.duplicateKey k.name none)
      else match es.lookup k.name with
        | some _ => .error (.duplicateKey k.name (some (b.path.map (·.name))))
        | none => .ok (es ++ [(k, value)], ()))
    0 pre .header b.current
  pure { b with current }

/-- Files the current table under its path. -/
def Builder.close (b : Builder) : Except Conflict Builder :=
  if b.path.isEmpty then .ok { b with root := b.current, current := [] }
  else
    let pre := b.path.dropLast
    let k := lastKey b.path
    let table : Item := .table b.current .header b.span
    if b.isArray then do
      let (root, ()) ← descend pre false (fun _ es =>
          match es.lookup k.name with
          | none => .ok (es ++ [(k, .tables [table] b.span)], ())
          | some (.tables items _) =>
            let items := items ++ [table]
            let span := match items.head?.bind Item.span?, items.getLast?.bind Item.span? with
              | some s, some t => some ⟨s.start, t.stop⟩
              | _, _ => none
            .ok (es.replace k.name (.tables items span), ())
          | some _ => .error (headerConflict b.path))
        0 pre .header b.root
      pure { b with root, current := [], path := [] }
    else do
      let (root, ()) ← descend pre false (fun _ es =>
          match es.lookup k.name with
          | none => .ok (es ++ [(k, table)], ())
          | some (.table _ form _) =>
            if form.isImplicit then .ok (es.replace k.name table, ())
            else .error (headerConflict b.path)
          | some _ => .error (headerConflict b.path))
        0 pre .header b.root
      pure { b with root, current := [], path := [] }

/-- Opens the table `[path]`: a table only implied so far is taken up with what it holds. -/
def Builder.openTable (b : Builder) (path : List Key) (span : Span) : Except Conflict Builder := do
  let b ← b.close
  let k := lastKey path
  let (root, current) ← descend path.dropLast false (fun _ es =>
      match es.lookup k.name with
      | none => .ok (es, [])
      | some (.table inner .implicit _) => .ok (es.remove k.name, inner)
      | some _ => .error (headerConflict path))
    0 path.dropLast .header b.root
  pure { root, current, path, isArray := false, span := some span }

/-- Opens the next table of the array `[[path]]`. -/
def Builder.openArrayTable (b : Builder) (path : List Key) (span : Span) :
    Except Conflict Builder := do
  let b ← b.close
  let k := lastKey path
  let (root, ()) ← descend path.dropLast false (fun _ es =>
      match es.lookup k.name with
      | none => .ok (es ++ [(k, .tables [] none)], ())
      | some (.tables ..) => .ok (es, ())
      | some _ => .error (headerConflict path))
    0 path.dropLast .header b.root
  pure { root, current := [], path, isArray := true, span := some span }

/-- A line of a document, as read. -/
inductive Line where
  | pair (pre : List Key) (k : Key) (value : Item)
  | header (path : List Key) (span : Span)
  | arrayHeader (path : List Key) (span : Span)

/-- A `key = value` line. -/
def pairLine : Parse Line := do
  let ks ← key
  final do
    withContexts [.expected "\x60.\x60", .expected "\x60=\x60"] (literal (ascii "="))
    blanks
    let v ← value
    withContexts [.expected "newline", .expected "\x60#\x60"] lineTrailing
    pure (.pair ks.dropLast (lastKey ks) v)

/-- A header line, `[path]` or `[[path]]`. -/
def headerLine : Parse Line := do
  let start ← offset
  if ← startsWith (ascii "[[") then do
    literal (ascii "[[")
    let path ← final key
    final (withContexts [.expected "\x60.\x60", .expected "\x60]]\x60"] (literal (ascii "]]")))
    let stop ← offset
    final (withContexts [.expected "newline", .expected "\x60#\x60"] lineTrailing)
    pure (.arrayHeader path ⟨start, stop⟩)
  else do
    literal (ascii "[")
    let path ← final key
    final (withContexts [.expected "\x60.\x60", .expected "\x60]\x60"] (literal (ascii "]")))
    let stop ← offset
    final (withContexts [.expected "newline", .expected "\x60#\x60"] lineTrailing)
    pure (.header path ⟨start, stop⟩)

/-- Takes a line into the document. -/
def Builder.take (b : Builder) : Line → Except Conflict Builder
  | .pair pre k v => b.put pre k v
  | .header path span => b.openTable path span
  | .arrayHeader path span => b.openArrayTable path span

/-- Reads lines until the end of the document, or until a lone carriage return. -/
def readLines : Nat → Builder → Cursor → Except Fault (Builder × Cursor)
  | 0, b, c => .ok (b, c)
  | fuel + 1, b, c =>
    let next : Except Fault (Builder × Cursor) :=
      match c.rest.head? with
      | none => .error (Fault.deadEnd c.pos)
      | some 0x23 => (final (do comment; lineEnding) c).map fun ((), c') => (b, c')
      | some 0x0A | some 0x0D => (newline c).map fun ((), c') => (b, c')
      | some 0x5B =>
        match final (withContext (.label "table header") headerLine) c with
        | .error f => .error f
        | .ok (line, c') =>
          match b.take line with
          | .ok b' => .ok (b', c')
          | .error conflict => .error ⟨c.pos, [.label "table header"], some conflict.message, true⟩
      | some _ =>
        match final pairLine c with
        | .error f => .error f
        | .ok (line, c') =>
          match b.take line with
          | .ok b' => .ok (b', c')
          | .error conflict => .error ⟨c.pos, [], some conflict.message, true⟩
    match next with
    | .ok (b', c') =>
      match blanks c' with
      | .ok ((), c'') => readLines fuel b' c''
      | .error f => .error f
    | .error f => if f.final then .error f else .ok (b, c)

/-- The error a fault becomes: one byte at its offset, or the empty span at the end. -/
def Fault.toError (f : Fault) (len : Nat) : Error :=
  ⟨f.message, some ⟨f.offset, if f.offset = len then f.offset else f.offset + 1⟩⟩

/-- Reads a document into its root table. A byte order mark is skipped. -/
def readDocument (source : String) : Except Error Entries :=
  let input := Utf8.encode source
  let start : Cursor :=
    if [0xEF, 0xBB, 0xBF].isPrefixOf input then ⟨input.drop 3, 3⟩ else ⟨input, 0⟩
  let c := match blanks start with
    | .ok ((), c) => c
    | .error _ => start
  match readLines (input.length + 1) {} c with
  | .error f => .error (f.toError input.length)
  | .ok (b, c) =>
    if !c.rest.isEmpty then .error ((Fault.deadEnd c.pos).toError input.length)
    else match b.close with
      | .ok b => .ok b.root
      | .error conflict => .error ⟨conflict.message, none⟩

end Toml
end PgBinding
