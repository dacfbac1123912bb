import Mathlib
import PgBinding.Proofs.ToyTexts
import PgBinding.Proofs.Operation
import PgBinding.Proofs.BufferChecks
import PgBinding.Proofs.PayloadCodec
/-!
# The toy engine's allocation ledger stays balanced

The toy engine counts every result it dispatches and every release, and tracks every allocation
its results hold: C strings, payload data, boxed records and the arrays of them. A release walks
its result as the free function of its shape does and takes back each pointer it meets; a null
pointer, or one that is not live, is a bad free.

Each entry point, on input it can read, answers with a result whose free takes back exactly what
the call allocated, none of it null (`Toy.entry_allocates`). The lifecycle releases every
dispatched result once, so each operation adds one dispatch and one release or nothing, and
leaves the live allocations and the bad frees as they were (`Toy.exec_keeps_ledger`). Over a
session from a fresh engine the ledger is balanced after every operation.

Allocations are known by what they hold, so the live set is read as a multiset.
-/

namespace PgBinding

namespace Utf8

theorem length_le_length_encode (s : String) : s.length ≤ (encode s).length := by
  rw [encode_eq_flatMap, ← String.length_toList]
  -- every character takes at least one byte
  induction s.toList with
  | nil => simp
  | cons c cs ih =>
    have hc : 0 < (String.utf8EncodeChar c).length :=
      List.length_pos_iff.2 String.utf8EncodeChar_ne_nil
    rw [List.flatMap_cons, List.length_append, List.length_cons]
    omega

theorem nul_not_mem_of_encode {s : String} (h : (0 : UInt8) ∉ encode s) : '\x00' ∉ s.toList := by
  rwa [← String.ofList_toList (s := s), zero_mem_encode_iff] at h

/-- Well-formed UTF-8 that ends in a NUL is well-formed without it: a NUL is a character of its
own, never the tail of one. -/
theorem decode_of_valid_concat_zero {body : Bytes} (h : valid (body ++ [0]) = true) :
    ∃ s, decode body = .ok s := by
  obtain ⟨cs, hcs⟩ : ∃ cs, decodeChars (body ++ [0]) = .ok cs := by
    unfold valid at h
    cases hd : decodeChars (body ++ [0]) with
    | error e => simp [hd, Except.toBool] at h
    | ok cs => exact ⟨cs, rfl⟩
  have henc : body ++ [0] = cs.flatMap String.utf8EncodeChar := by
    rw [← encode_ofList]
    exact (decode_eq_ok_iff _ _).1 (by simp [decode, hcs, Except.map])
  rcases List.eq_nil_or_concat cs with rfl | ⟨cs', c, rfl⟩
  · simp at henc
  · rw [List.concat_eq_append, List.flatMap_append, List.flatMap_singleton] at henc
    have hc : c = '\x00' := by
      have hlast := congrArg List.getLast? henc
      rw [List.getLast?_concat, List.getLast?_append_of_ne_nil _ String.utf8EncodeChar_ne_nil]
        at hlast
      exact (zero_mem_encodeChar_iff c).1 (List.mem_of_getLast? hlast.symm)
    subst hc
    have hbody : body = cs'.flatMap String.utf8EncodeChar := List.append_cancel_right henc
    exact ⟨String.ofList cs', (decode_eq_ok_iff _ _).2 (by rw [hbody, encode_ofList])⟩

end Utf8

namespace Toy

/-- The allocations a list of pointers names; null pointers name none. -/
def blocks (ps : List (Option Block)) : Multiset Block := ↑(ps.filterMap id)

@[simp] theorem blocks_nil : blocks [] = 0 := rfl

@[simp] theorem blocks_cons_some (b : Block) (ps : List (Option Block)) :
    blocks (some b :: ps) = b ::ₘ blocks ps := rfl

@[simp] theorem blocks_map_some {α : Type} (g : α → Block) (l : List α) :
    blocks (l.map fun a => some (g a)) = ↑(l.map g) := by
  simp [blocks, List.filterMap_map]

@[simp] theorem blocks_append (ps qs : List (Option Block)) :
    blocks (ps ++ qs) = blocks ps + blocks qs := by
  simp [blocks, List.filterMap_append]

/-! ## Taking pointers back -/

theorem untrack_of_mem {b : Block} {s : State} (h : b ∈ s.live) :
    untrack (some b) s = { s with live := s.live.erase b } := by
  simp [untrack, h]

/-- Taking back the allocation made last. -/
theorem untrack_head (b : Block) (d r bad : Nat) (l : List Block) (lo : Option Int32)
    (ldo : Option CapturedOptions) :
    untrack (some b) ⟨d, r, b :: l, bad, lo, ldo⟩ = ⟨d, r, l, bad, lo, ldo⟩ := by
  simp [untrack]

/-- Taking back pointers that are all live removes exactly their allocations and touches
nothing else. -/
theorem takeBack_of_live (ps : List (Option Block)) (hnull : ∀ p ∈ ps, p.isSome)
    (s : State) (rest : Multiset Block) (hlive : (s.live : Multiset Block) = blocks ps + rest) :
    ∃ l : List Block, takeBack ps s = { s with live := l } ∧ (l : Multiset Block) = rest := by
  induction ps generalizing s with
  | nil => exact ⟨s.live, rfl, by simpa using hlive⟩
  | cons p ps ih =>
    obtain ⟨b, rfl⟩ := Option.isSome_iff_exists.1 (hnull p List.mem_cons_self)
    rw [blocks_cons_some, Multiset.cons_add] at hlive
    have hmem : b ∈ s.live := by
      rw [← Multiset.mem_coe, hlive]
      exact Multiset.mem_cons_self _ _
    have herase : ((s.live.erase b : List Block) : Multiset Block) = blocks ps + rest := by
      rw [← Multiset.coe_erase, hlive, Multiset.erase_cons_head]
    obtain ⟨l, hl, hrest⟩ := ih (fun q hq => hnull q (List.mem_cons_of_mem _ hq))
      { s with live := s.live.erase b } herase
    exact ⟨l, by rw [takeBack, List.foldl_cons, untrack_of_mem hmem]; exact hl, hrest⟩

/-! ## What the toy engine allocates -/

theorem dispatch_run (o : Option Int32) (s : State) :
    dispatch o s = .ok ()
      { s with
        dispatched := s.dispatched + 1
        lastOptions := if o.isSome then o else s.lastOptions } := rfl

theorem input_run {bs : Bytes} {sql : String} (h : Utf8.decode bs = .ok sql) (s : State) :
    input bs s = .ok sql s := by
  simp only [input, h]
  rfl

theorem allocBytes_run {bs : Bytes} (h : 0 ∉ bs) (s : State) :
    allocBytes bs s = .ok bs { s with live := .cstring bs :: s.live } := by
  simp only [allocBytes, List.idxOf?_eq_none_iff.2 h, track]
  rfl

/-- The bytes of a text the engine returns: its encoding, and the invalid byte when so set. -/
theorem allocText_run (f : Flags) {text : String} (h : '\x00' ∉ text.toList) (s : State) :
    allocText f text s =
      .ok (Utf8.encode text ++ if f.invalidUtf8 then [0xff] else [])
        { s with live := .cstring (Utf8.encode text ++ if f.invalidUtf8 then [0xff] else []) ::
            s.live } := by
  have henc : 0 ∉ Utf8.encode text := List.idxOf?_eq_none_iff.1 (Utf8.idxOf?_encode_of_no_nul h)
  have hbyte : (0 : UInt8) ∉ (if f.invalidUtf8 then [0xff] else [] : Bytes) := by
    split <;> decide
  exact allocBytes_run (by rw [List.mem_append, not_or]; exact ⟨henc, hbyte⟩) s

/-- A payload is boxed unless it is empty, and is then the payload of its bytes. -/
theorem allocPayload_run (f : Flags) (bs : Bytes) (s : State) :
    allocPayload f bs s =
      .ok (Payload.ofBytes (if f.corruptPayloads then [0xff, 0xff, 0xff] else bs))
        { s with
          live := (payloadFreed (Payload.ofBytes (if f.corruptPayloads then [0xff, 0xff, 0xff] else bs))).filterMap id ++ s.live } := by
  simp only [allocPayload]
  generalize (if f.corruptPayloads then [0xff, 0xff, 0xff] else bs : Bytes) = b
  cases b with
  | nil => rfl
  | cons x xs => rfl

/-- The error record the toy scanner reports. -/
def scannerError (msg : String) (cursor : Int32) : NativeError :=
  ⟨some (Utf8.encode msg), some (Utf8.encode "scanner_yyerror"), some (Utf8.encode "scan.l"), 1242,
    cursor, none⟩

/-- The scanner's error record is allocated after its three strings. -/
theorem allocError_run (msg : String) (hmsg : '\x00' ∉ msg.toList) (cursor : Int32) (s : State) :
    allocError msg cursor s =
      .ok (scannerError msg cursor)
        { s with
          live := .error (scannerError msg cursor) :: .cstring (Utf8.encode "scan.l") ::
            .cstring (Utf8.encode "scanner_yyerror") :: .cstring (Utf8.encode msg) :: s.live } := by
  have h0 : 0 ∉ Utf8.encode msg := List.idxOf?_eq_none_iff.1 (Utf8.idxOf?_encode_of_no_nul hmsg)
  have h1 : 0 ∉ Utf8.encode "scanner_yyerror" := by decide +kernel
  have h2 : 0 ∉ Utf8.encode "scan.l" := by decide +kernel
  simp only [allocError, bind, EStateM.bind, allocBytes_run h0, allocBytes_run h1,
    allocBytes_run h2, track]
  rfl

/-- The record is freed first and its strings after it, in the order they were allocated. -/
theorem scannerError_blocks (msg : String) (cursor : Int32) (l : List Block) :
    ((Block.error (scannerError msg cursor) :: .cstring (Utf8.encode "scan.l") ::
        .cstring (Utf8.encode "scanner_yyerror") :: .cstring (Utf8.encode msg) :: l : List Block) :
        Multiset Block) =
      blocks (errorFreed (some (scannerError msg cursor))) + l := by
  simp only [errorFreed, scannerError, cstringFreed, List.cons_append, List.nil_append,
    List.append_nil, blocks_cons_some, blocks_nil, ← Multiset.cons_coe, Multiset.cons_add, zero_add]
  rw [Multiset.cons_swap (Block.cstring _) (.cstring (Utf8.encode "scanner_yyerror")),
    Multiset.cons_swap (Block.cstring (Utf8.encode "scan.l")),
    Multiset.cons_swap (Block.cstring (Utf8.encode "scanner_yyerror"))]

theorem syntaxError_of_none {sql : String} (h : syntaxErrorCursor sql = none) (s : State) :
    syntaxError sql s = .ok none s := by
  simp only [syntaxError, h]
  rfl

theorem syntaxError_of_some {sql : String} {cursor : Nat} (h : syntaxErrorCursor sql = some cursor)
    (s : State) :
    syntaxError sql s =
      .ok (some (scannerError "syntax error at end of input" (Int32.ofNat cursor)))
        { s with
          live := .error (scannerError "syntax error at end of input" (Int32.ofNat cursor)) ::
            .cstring (Utf8.encode "scan.l") :: .cstring (Utf8.encode "scanner_yyerror") ::
            .cstring (Utf8.encode "syntax error at end of input") :: s.live } := by
  simp only [syntaxError, h, Functor.map, EStateM.map,
    allocError_run _ (by decide +kernel : '\x00' ∉ "syntax error at end of input".toList)]

/-! ## Each entry point allocates what its result's free takes back -/

/-- What a call of an entry point leaves in the ledger, from `s` to `t`, when it answers with
`raw`: one more dispatch, and live exactly the allocations the free of `raw` takes back, none of
them null. -/
structure Allocated (s t : State) (sh : Shape) (raw : sh.Record) : Prop where
  dispatched : t.dispatched = s.dispatched + 1
  released : t.released = s.released
  badFrees : t.badFrees = s.badFrees
  nonnull : ∀ p ∈ freed sh raw, p.isSome
  live : (t.live : Multiset Block) = blocks (freed sh raw) + s.live

/-- Releasing what a call allocated brings the live set and the bad frees back to where they
were before the call, with one dispatch and one release more. -/
theorem Allocated.release {s t : State} {sh : Shape} {raw : sh.Record} (h : Allocated s t sh raw) :
    (release sh raw t).dispatched = s.dispatched + 1 ∧
      (release sh raw t).released = s.released + 1 ∧
      (release sh raw t).badFrees = s.badFrees ∧
      ((release sh raw t).live : Multiset Block) = s.live := by
  obtain ⟨l, hl, hrest⟩ := takeBack_of_live (freed sh raw) h.nonnull
    { t with released := t.released + 1 } s.live h.live
  rw [Toy.release, hl]
  exact ⟨h.dispatched, by simp [h.released], h.badFrees, hrest⟩

/-- A call that answers the scanner's error record and allocated nothing else. -/
theorem Allocated.of_scannerError {s t : State} {sh : Shape} {raw : sh.Record} {msg : String}
    {cursor : Int32} (hd : t.dispatched = s.dispatched + 1) (hr : t.released = s.released)
    (hb : t.badFrees = s.badFrees)
    (hlive : t.live = .error (scannerError msg cursor) :: .cstring (Utf8.encode "scan.l") ::
      .cstring (Utf8.encode "scanner_yyerror") :: .cstring (Utf8.encode msg) :: s.live)
    (hfreed : freed sh raw = errorFreed (some (scannerError msg cursor))) :
    Allocated s t sh raw where
  dispatched := hd
  released := hr
  badFrees := hb
  nonnull := by simp [hfreed, errorFreed, scannerError, cstringFreed]
  live := by rw [hlive, hfreed, scannerError_blocks]

/-- A call that answers one C string and allocated nothing else. -/
theorem Allocated.of_cstring {s t : State} {sh : Shape} {raw : sh.Record} {bs : Bytes}
    (hd : t.dispatched = s.dispatched + 1) (hr : t.released = s.released)
    (hb : t.badFrees = s.badFrees) (hlive : t.live = .cstring bs :: s.live)
    (hfreed : freed sh raw = [some (.cstring bs)]) : Allocated s t sh raw where
  dispatched := hd
  released := hr
  badFrees := hb
  nonnull := by simp [hfreed]
  live := by simp [hlive, hfreed]

/-- A call that answers one payload and allocated nothing else. -/
theorem Allocated.of_payload {s t : State} {sh : Shape} {raw : sh.Record} {p : Payload}
    (hd : t.dispatched = s.dispatched + 1) (hr : t.released = s.released)
    (hb : t.badFrees = s.badFrees) (hlive : t.live = (payloadFreed p).filterMap id ++ s.live)
    (hfreed : freed sh raw = payloadFreed p) : Allocated s t sh raw where
  dispatched := hd
  released := hr
  badFrees := hb
  nonnull := by
    rw [hfreed, payloadFreed]
    split <;> simp
  live := by rw [hlive, hfreed, blocks, ← Multiset.coe_add]

theorem normalize_allocates (f : Flags) {bs : Bytes} {sql : String}
    (hin : Utf8.decode bs = .ok sql) (hnul : '\x00' ∉ sql.toList) (s : State) :
    ∃ raw t, (engine f).normalize bs s = .ok raw t ∧ Allocated s t .normalize raw := by
  simp only [engine, bind, EStateM.bind, dispatch_run, input_run hin]
  cases hc : syntaxErrorCursor sql with
  | some cursor =>
    simp only [syntaxError_of_some hc]
    exact ⟨_, _, rfl, .of_scannerError rfl rfl rfl rfl rfl⟩
  | none =>
    simp only [syntaxError_of_none hc, EStateM.bind, allocText_run f (nul_not_mem_normalize hnul)]
    exact ⟨_, _, rfl, .of_cstring rfl rfl rfl rfl rfl⟩

theorem normalizeUtility_allocates (f : Flags) {bs : Bytes} {sql : String}
    (hin : Utf8.decode bs = .ok sql) (hnul : '\x00' ∉ sql.toList) (s : State) :
    ∃ raw t, (engine f).normalizeUtility bs s = .ok raw t ∧ Allocated s t .normalize raw := by
  simp only [engine, bind, EStateM.bind, dispatch_run, input_run hin,
    allocText_run f (Text.nul_not_mem_toLower (nul_not_mem_normalize hnul))]
  exact ⟨_, _, rfl, .of_cstring rfl rfl rfl rfl rfl⟩

theorem scan_allocates (f : Flags) {bs : Bytes} {sql : String}
    (hin : Utf8.decode bs = .ok sql) (s : State) :
    ∃ raw t, (engine f).scan bs s = .ok raw t ∧ Allocated s t .scan raw := by
  simp only [engine, bind, EStateM.bind, dispatch_run, input_run hin, allocPayload_run]
  exact ⟨_, _, rfl, .of_payload rfl rfl rfl rfl (List.append_nil _)⟩

theorem parseJson_allocates (f : Flags) {bs : Bytes} {sql : String}
    (hin : Utf8.decode bs = .ok sql) (o : Int32) (s : State) :
    ∃ raw t, (engine f).parseJson bs o s = .ok raw t ∧ Allocated s t .parse raw := by
  simp only [engine, bind, EStateM.bind, dispatch_run, input_run hin]
  cases hc : syntaxErrorCursor sql with
  | some cursor =>
    simp only [syntaxError_of_some hc]
    exact ⟨_, _, rfl, .of_scannerError rfl rfl rfl rfl rfl⟩
  | none =>
    simp only [syntaxError_of_none hc, EStateM.bind, allocText_run f (nul_not_mem_jsonTree sql)]
    exact ⟨_, _, rfl, .of_cstring rfl rfl rfl rfl rfl⟩

theorem parseProtobuf_allocates (f : Flags) {bs : Bytes} {sql : String}
    (hin : Utf8.decode bs = .ok sql) (o : Int32) (s : State) :
    ∃ raw t, (engine f).parseProtobuf bs o s = .ok raw t ∧ Allocated s t .parseProtobuf raw := by
  simp only [engine, bind, EStateM.bind, dispatch_run, input_run hin]
  cases hc : syntaxErrorCursor sql with
  | some cursor =>
    simp only [syntaxError_of_some hc]
    exact ⟨_, _, rfl, .of_scannerError rfl rfl rfl rfl rfl⟩
  | none =>
    simp only [syntaxError_of_none hc, EStateM.bind, allocPayload_run]
    exact ⟨_, _, rfl, .of_payload rfl rfl rfl rfl (List.append_nil _)⟩

theorem parsePlpgsql_allocates (f : Flags) {bs : Bytes} {sql : String}
    (hin : Utf8.decode bs = .ok sql) (s : State) :
    ∃ raw t, (engine f).parsePlpgsql bs s = .ok raw t ∧ Allocated s t .parsePlpgsql raw := by
  simp only [engine, bind, EStateM.bind, dispatch_run, input_run hin]
  cases hc : syntaxErrorCursor sql with
  | some cursor =>
    simp only [syntaxError_of_some hc]
    exact ⟨_, _, rfl, .of_scannerError rfl rfl rfl rfl rfl⟩
  | none =>
    simp only [syntaxError_of_none hc, EStateM.bind,
      allocText_run f (by decide +kernel : '\x00' ∉ "[\x7b\"PLpgSQL_function\":\x7b\"datums\":[]\x7d\x7d]".toList)]
    exact ⟨_, _, rfl, .of_cstring rfl rfl rfl rfl rfl⟩

theorem fingerprint_allocates (f : Flags) {bs : Bytes} {sql : String}
    (hin : Utf8.decode bs = .ok sql) (o : Int32) (s : State) :
    ∃ raw t, (engine f).fingerprint bs o s = .ok raw t ∧ Allocated s t .fingerprint raw := by
  simp only [engine, bind, EStateM.bind, dispatch_run, input_run hin]
  cases hc : syntaxErrorCursor sql with
  | some cursor =>
    simp only [syntaxError_of_some hc]
    exact ⟨_, _, rfl, .of_scannerError rfl rfl rfl rfl rfl⟩
  | none =>
    simp only [syntaxError_of_none hc, EStateM.bind, allocText_run f (nul_not_mem_fixed _ _)]
    exact ⟨_, _, rfl, .of_cstring rfl rfl rfl rfl rfl⟩

/-! ## Splitting -/

/-- The boxed records of spans, allocated one after another. -/
theorem mapM_allocStatement_run (spans : List (Nat × Nat)) (s : State) :
    spans.mapM allocStatement s =
      .ok ((spans.map fun sp => (Int32.ofNat sp.1, Int32.ofNat sp.2)).map some)
        { s with
          live := ((spans.map fun sp => (Int32.ofNat sp.1, Int32.ofNat sp.2)).map
            fun e => Block.statement e.1 e.2).reverse ++ s.live } := by
  induction spans generalizing s with
  | nil => rfl
  | cons sp spans ih =>
    simp only [List.mapM_cons, bind, EStateM.bind, allocStatement, track, modify, modifyGet,
      MonadStateOf.modifyGet, EStateM.modifyGet, pure, EStateM.pure, ih]
    simp

/-- An array of boxed statements is freed with every entry its count names: all of them, while
the count fits a C int. -/
theorem statementsFreed_boxed (entries : List (Int32 × Int32)) (h : entries.length < 2 ^ 31) :
    statementsFreed (some (entries.map some)) (Int32.ofNat (entries.map some).length) =
      some (.statements (entries.map some)) :: entries.map fun e => some (.statement e.1 e.2) := by
  have hlen : (Int32.ofNat (entries.map some).length).toInt.toNat = entries.length := by
    rw [List.length_map, Int32.toInt_ofNat_of_lt h, Int.toNat_natCast]
  rw [statementsFreed, hlen, List.take_of_length_le (by simp), List.map_map]
  rfl

/-- Checking the syntax of a text without a syntax error changes nothing. -/
theorem splitReply_checked_of_none (f : Flags) {sql : String} (h : syntaxErrorCursor sql = none)
    (s : State) : splitReply f sql true s = splitReply f sql false s := by
  simp only [splitReply, if_true, Bool.false_eq_true, if_false, bind, EStateM.bind,
    syntaxError_of_none h]
  rfl

/-- A split result, made right after the dispatch was counted: the statement records and their
array unless there are none, or the scanner's error record when the syntax is checked and found
wrong. -/
theorem splitReply_allocates (f : Flags) (sql : String) (checkSyntax : Bool)
    (hcount : (splitSpans f sql).length < 2 ^ 31) (s : State) (o : Option Int32) :
    ∃ raw t, splitReply f sql checkSyntax { s with dispatched := s.dispatched + 1, lastOptions := o } =
      .ok raw t ∧ Allocated s t .split raw := by
  -- without an error the statements are boxed whichever way the syntax was checked
  have hstatements : ∃ raw t, splitReply f sql false
      { s with dispatched := s.dispatched + 1, lastOptions := o } = .ok raw t ∧
      Allocated s t .split raw := by
    simp only [splitReply, Bool.false_eq_true, if_false, bind, EStateM.bind, pure, EStateM.pure,
      mapM_allocStatement_run]
    have hpairs : (splitSpans f sql |>.map fun sp => (Int32.ofNat sp.1, Int32.ofNat sp.2)).length <
        2 ^ 31 := by simpa using hcount
    generalize (splitSpans f sql).map (fun sp => (Int32.ofNat sp.1, Int32.ofNat sp.2)) = pairs
      at hpairs ⊢
    cases pairs with
    | nil => exact ⟨_, _, rfl, rfl, rfl, rfl, by simp [freed, statementsFreed, errorFreed], by
        simp [freed, statementsFreed, errorFreed]⟩
    | cons e rest =>
      refine ⟨_, _, rfl, rfl, rfl, rfl, ?_, ?_⟩
      · simp only [freed, statementsFreed_boxed _ hpairs, errorFreed, List.append_nil,
          List.mem_cons, List.mem_map]
        rintro _ (rfl | ⟨_, -, rfl⟩) <;> rfl
      · simp only [freed, statementsFreed_boxed _ hpairs, errorFreed, List.append_nil,
          blocks_cons_some, blocks_map_some, ← Multiset.cons_coe, ← Multiset.coe_add,
          Multiset.coe_reverse, Multiset.cons_add]
  cases checkSyntax
  · exact hstatements
  · cases hc : syntaxErrorCursor sql with
    | none =>
      rw [splitReply_checked_of_none f hc]
      exact hstatements
    | some cursor =>
      simp only [splitReply, if_true, bind, EStateM.bind, syntaxError_of_some hc]
      exact ⟨_, _, rfl, .of_scannerError rfl rfl rfl rfl rfl⟩

theorem splitWithScanner_allocates (f : Flags) {bs : Bytes} {sql : String}
    (hin : Utf8.decode bs = .ok sql) (hcount : (splitSpans f sql).length < 2 ^ 31) (s : State) :
    ∃ raw t, (engine f).splitWithScanner bs s = .ok raw t ∧ Allocated s t .split raw := by
  simp only [engine, bind, EStateM.bind, dispatch_run, input_run hin]
  exact splitReply_allocates f sql false hcount s _

theorem splitWithParser_allocates (f : Flags) {bs : Bytes} {sql : String}
    (hin : Utf8.decode bs = .ok sql) (hcount : (splitSpans f sql).length < 2 ^ 31) (s : State) :
    ∃ raw t, (engine f).splitWithParser bs s = .ok raw t ∧ Allocated s t .split raw := by
  simp only [engine, bind, EStateM.bind, dispatch_run, input_run hin]
  exact splitReply_allocates f sql true hcount s _

/-- Each statement holds a character of its own: a split of a text has no more statements than
the text has characters, the separators between its parts included. -/
theorem length_segmentsFrom_le (start : Nat) (parts : List (List Char)) :
    (segmentsFrom start parts).length ≤ ([';'].intercalate parts).length := by
  induction parts generalizing start with
  | nil => simp [segmentsFrom]
  | cons part rest ih =>
    have hpart : (segmentsFrom start (part :: rest)).length ≤
        part.length + (segmentsFrom (start + byteLength part + 1) rest).length := by
      rw [segmentsFrom]
      split_ifs with hblank
      · omega
      · have hne : part ≠ [] := by
          rintro rfl
          exact hblank rfl
        have := List.length_pos_iff.2 hne
        rw [List.length_cons]
        omega
    have hsep : part.length + ([';'].intercalate rest).length ≤
        ([';'].intercalate (part :: rest)).length := by
      cases rest with
      | nil => simp
      | cons part' rest' =>
        rw [List.intercalate_cons_cons, List.length_append, List.length_append]
        omega
    have := ih (start + byteLength part + 1)
    omega

theorem length_statements_le (sql : String) : (statements sql).length ≤ sql.length := by
  have h := length_segmentsFrom_le 0 (sql.toList.splitOn ';')
  rwa [List.intercalate_splitOn, String.length_toList] at h

/-- Making the last statement oversized keeps the count. -/
theorem length_splitSpans (f : Flags) (sql : String) :
    (splitSpans f sql).length = (statements sql).length := by
  have hspans : (statementSpans sql).length = (statements sql).length := List.length_map _
  unfold splitSpans
  split_ifs
  · dsimp only
    split
    · rename_i loc len rest h
      have hlen := congrArg List.length h
      rw [List.length_reverse] at hlen
      rw [List.length_reverse, List.length_cons, ← hspans, hlen, List.length_cons]
    · rename_i h
      rw [List.reverse_eq_nil_iff] at h
      rw [← hspans, h]
  · exact hspans

/-! ## Deparsing -/

/-- The statement texts of a tree, as the toy engine decodes it, hold no NUL. -/
def TextsNulFree (tree : Payload) : Prop :=
  ∀ texts, statementTexts tree = some texts → ∀ t ∈ texts, '\x00' ∉ t.toList

theorem nul_not_mem_join {texts : List String} (h : ∀ t ∈ texts, '\x00' ∉ t.toList) :
    '\x00' ∉ ("; ".intercalate texts).toList := by
  rw [String.toList_intercalate]
  intro hn
  rcases Text.mem_of_mem_intercalate hn with hn | ⟨x, hx, hn⟩
  · exact absurd hn (by decide +kernel)
  · obtain ⟨t, ht, rfl⟩ := List.mem_map.1 hx
    exact h t ht hn

theorem deparseTree_of_texts (f : Flags) {tree : Payload} {texts : List String}
    (htexts : statementTexts tree = some texts) (hnul : ∀ t ∈ texts, '\x00' ∉ t.toList)
    (s : State) :
    deparseTree f tree s =
      .ok { text := some (Utf8.encode ("; ".intercalate texts) ++
              if f.invalidUtf8 then [0xff] else []) }
        { s with
          dispatched := s.dispatched + 1
          lastOptions := s.lastOptions
          live := .cstring (Utf8.encode ("; ".intercalate texts) ++
            if f.invalidUtf8 then [0xff] else []) :: s.live } := by
  simp only [deparseTree, bind, EStateM.bind, dispatch_run, htexts,
    allocText_run f (nul_not_mem_join hnul)]
  rfl

theorem deparseTree_of_none (f : Flags) {tree : Payload} (htexts : statementTexts tree = none)
    (s : State) :
    deparseTree f tree s =
      .ok { error := some (scannerError "failed to unpack protobuf parse tree" 0) }
        { s with
          dispatched := s.dispatched + 1
          lastOptions := s.lastOptions
          live := .error (scannerError "failed to unpack protobuf parse tree" 0) ::
            .cstring (Utf8.encode "scan.l") :: .cstring (Utf8.encode "scanner_yyerror") ::
            .cstring (Utf8.encode "failed to unpack protobuf parse tree") :: s.live } := by
  simp only [deparseTree, bind, EStateM.bind, dispatch_run, htexts,
    allocError_run _ (by decide +kernel : '\x00' ∉ "failed to unpack protobuf parse tree".toList)]
  rfl

/-- A statement text with a NUL in it makes the engine panic after the dispatch is counted. -/
theorem deparseTree_of_nul (f : Flags) {tree : Payload} {texts : List String}
    (htexts : statementTexts tree = some texts) (hnul : '\x00' ∈ ("; ".intercalate texts).toList)
    (s : State) :
    ∃ p, deparseTree f tree s =
      .error p { s with dispatched := s.dispatched + 1, lastOptions := s.lastOptions } := by
  have hzero : (0 : UInt8) ∈ Utf8.encode ("; ".intercalate texts) := by
    rw [← String.ofList_toList (s := "; ".intercalate texts), Utf8.zero_mem_encode_iff]
    exact hnul
  obtain ⟨i, hi⟩ := Option.isSome_iff_exists.1
    (List.isSome_idxOf?.2 (List.mem_append_left (if f.invalidUtf8 then [0xff] else []) hzero))
  simp only [deparseTree, bind, EStateM.bind, dispatch_run, htexts, allocText, allocBytes, hi]
  exact ⟨_, rfl⟩

theorem deparse_allocates (f : Flags) {tree : Payload} (hnul : TextsNulFree tree) (s : State) :
    ∃ raw t, (engine f).deparse tree s = .ok raw t ∧ Allocated s t .deparse raw := by
  simp only [engine]
  cases htexts : statementTexts tree with
  | some texts =>
    rw [deparseTree_of_texts f htexts (hnul texts htexts)]
    exact ⟨_, _, rfl, .of_cstring rfl rfl rfl rfl rfl⟩
  | none =>
    rw [deparseTree_of_none f htexts]
    exact ⟨_, _, rfl, .of_scannerError rfl rfl rfl rfl rfl⟩

theorem deparseWithOptions_allocates (f : Flags) {tree : Payload} (hnul : TextsNulFree tree)
    (o : NativeDeparseOptions) (s : State) :
    ∃ raw t, (engine f).deparseWithOptions tree o s = .ok raw t ∧
      Allocated s t .deparse raw := by
  simp only [engine, bind, EStateM.bind, modify, modifyGet, MonadStateOf.modifyGet,
    EStateM.modifyGet]
  cases htexts : statementTexts tree with
  | some texts =>
    rw [deparseTree_of_texts f htexts (hnul texts htexts)]
    simp only [Option.isNone_none, Bool.true_and]
    split
    · -- the text is taken back and allocated again with a newline after it
      have hbytes : 0 ∉ (Utf8.encode ("; ".intercalate texts) ++
          if f.invalidUtf8 then [0xff] else []) ++ [10] := by
        have henc := List.idxOf?_eq_none_iff.1 (Utf8.idxOf?_encode_of_no_nul
          (nul_not_mem_join (hnul texts htexts)))
        simp only [List.mem_append, not_or]
        exact ⟨⟨henc, by split <;> decide⟩, by decide⟩
      generalize (Utf8.encode ("; ".intercalate texts) ++ if f.invalidUtf8 then [0xff] else []) = b
        at hbytes ⊢
      simp only [EStateM.bind, EStateM.modifyGet, cstringFreed, takeBack, List.foldl_cons,
        List.foldl_nil, untrack_head, Option.getD_some, allocBytes_run hbytes]
      exact ⟨_, _, rfl, .of_cstring rfl rfl rfl rfl rfl⟩
    · exact ⟨_, _, rfl, .of_cstring rfl rfl rfl rfl rfl⟩
  | none =>
    rw [deparseTree_of_none f htexts]
    exact ⟨_, _, rfl, .of_scannerError rfl rfl rfl rfl rfl⟩

/-! ## The optional entry points -/

/-- The pointers a comment record is freed by, without the array: the record, then its text. -/
def commentFreed (r : CommentRecord) : List (Option Block) := some (.comment r) :: cstringFreed r.text

/-- A comment record is allocated after its text. -/
theorem allocComment_run (f : Flags) {c : Comment} (h : '\x00' ∉ c.text.toList) (s : State) :
    ∃ (r : CommentRecord) (b : Bytes), allocComment f c s =
      .ok (some r) { s with live := .comment r :: .cstring b :: s.live } ∧ r.text = some b := by
  simp only [allocComment, bind, EStateM.bind, allocText_run f h, track, modify, modifyGet,
    MonadStateOf.modifyGet, EStateM.modifyGet, pure, EStateM.pure]
  exact ⟨_, _, rfl, rfl⟩

theorem isSome_of_mem_cstringFreed {text : Option Bytes} {p : Option Block}
    (h : p ∈ cstringFreed text) : p.isSome := by
  cases text with
  | none => simp [cstringFreed] at h
  | some bs =>
    rw [cstringFreed, List.mem_singleton] at h
    rw [h]
    rfl

theorem isSome_of_mem_commentFreed {r : CommentRecord} {p : Option Block}
    (h : p ∈ commentFreed r) : p.isSome := by
  rcases List.mem_cons.1 h with rfl | h
  · rfl
  · exact isSome_of_mem_cstringFreed h

/-- Comment records, each with its text, allocated one after another. -/
theorem mapM_allocComment_run (f : Flags) (cs : List Comment)
    (hnul : ∀ c ∈ cs, '\x00' ∉ c.text.toList) (s : State) :
    ∃ (records : List CommentRecord) (l : List Block),
      cs.mapM (allocComment f) s = .ok (records.map some) { s with live := l } ∧
      (l : Multiset Block) = blocks (records.flatMap commentFreed) + s.live := by
  induction cs generalizing s with
  | nil => exact ⟨[], s.live, rfl, by simp⟩
  | cons c cs ih =>
    obtain ⟨r, b, hr, hb⟩ := allocComment_run f (hnul c List.mem_cons_self) s
    obtain ⟨records, l, hrun, hl⟩ := ih (fun c' hc' => hnul c' (List.mem_cons_of_mem _ hc'))
      { s with live := .comment r :: .cstring b :: s.live }
    refine ⟨r :: records, l, ?_, ?_⟩
    · simp only [List.mapM_cons, bind, EStateM.bind, hr, hrun, pure, EStateM.pure]
      rfl
    · rw [hl, List.flatMap_cons, blocks_append]
      simp only [commentFreed, cstringFreed, hb, blocks_cons_some, blocks_nil,
        ← Multiset.cons_coe, Multiset.add_cons, Multiset.cons_add, zero_add]

/-- An array of boxed comment records is freed with every record its count names, all of
them, and each record with its text. -/
theorem commentsFreed_boxed (records : List CommentRecord) :
    commentsFreed (some (records.map some)) (records.map some).length =
      some (.comments (records.map some)) :: records.flatMap commentFreed := by
  rw [commentsFreed, List.take_of_length_le (le_refl _), List.flatMap_map]
  rfl

theorem deparseComments_allocates (f : Flags) {bs : Bytes} {sql : String}
    (hin : Utf8.decode bs = .ok sql) (hnul : '\x00' ∉ sql.toList) (s : State) :
    (engine f).deparseComments bs s = .ok none s ∨
      ∃ raw t, (engine f).deparseComments bs s = .ok (some raw) t ∧
        Allocated s t .deparseComments raw := by
  cases hf : f.withoutOptional
  · right
    obtain ⟨records, l, hrun, hl⟩ := mapM_allocComment_run f (comments sql)
      (fun c hc => nul_not_mem_comment_text hnul hc)
      { s with dispatched := s.dispatched + 1, lastOptions := s.lastOptions }
    simp only [engine, hf, Bool.false_eq_true, if_false, bind, EStateM.bind, dispatch_run,
      input_run hin, Option.isSome_none, hrun]
    have hnull : ∀ p ∈ records.flatMap commentFreed, p.isSome := fun p hp => by
      obtain ⟨r, -, hp⟩ := List.mem_flatMap.1 hp
      exact isSome_of_mem_commentFreed hp
    cases records with
    | nil =>
      refine ⟨_, _, rfl, rfl, rfl, rfl, by simp [freed, commentsFreed, errorFreed], ?_⟩
      simpa [freed, commentsFreed, errorFreed] using hl
    | cons r rest =>
      refine ⟨_, _, rfl, rfl, rfl, rfl, ?_, ?_⟩
      · rw [freed, commentsFreed_boxed, errorFreed, List.append_nil]
        rintro p (_ | ⟨_, hp⟩)
        · rfl
        · exact hnull p hp
      · rw [freed, commentsFreed_boxed, errorFreed, List.append_nil, blocks_cons_some,
          ← Multiset.cons_coe, hl, Multiset.cons_add]
  · left
    simp only [engine, hf, if_true]
    rfl

theorem summary_allocates (f : Flags) {bs : Bytes} {sql : String}
    (hin : Utf8.decode bs = .ok sql) (o limit : Int32) (s : State) :
    (engine f).summary bs o limit s = .ok none s ∨
      ∃ raw t, (engine f).summary bs o limit s = .ok (some raw) t ∧
        Allocated s t .summary raw := by
  cases hf : f.withoutOptional
  · right
    simp only [engine, hf, Bool.false_eq_true, if_false, bind, EStateM.bind, dispatch_run,
      input_run hin]
    cases hc : syntaxErrorCursor sql with
    | some cursor =>
      simp only [syntaxError_of_some hc]
      exact ⟨_, _, rfl, .of_scannerError rfl rfl rfl rfl rfl⟩
    | none =>
      simp only [syntaxError_of_none hc, EStateM.bind, allocPayload_run]
      exact ⟨_, _, rfl, .of_payload rfl rfl rfl rfl (List.append_nil _)⟩
  · left
    simp only [engine, hf, if_true]
    rfl

/-! ## Every entry point -/

/-- Text the toy engine reads: well-formed UTF-8 without NUL, shorter than `2 ^ 31` characters. -/
def ReadableText (bs : Bytes) : Prop :=
  ∃ sql, Utf8.decode bs = .ok sql ∧ '\x00' ∉ sql.toList ∧ sql.length < 2 ^ 31

/-- An argument the toy engine reads without panicking: its text, or the statement texts of its
tree. -/
def ReadableArgument : (en : Entry) → en.Argument → Prop
  | .normalize, bs | .normalizeUtility, bs | .scan, bs | .parsePlpgsql, bs
  | .splitWithScanner, bs | .splitWithParser, bs | .deparseComments, bs => ReadableText bs
  | .parseJson, (bs, _) | .parseProtobuf, (bs, _) | .fingerprint, (bs, _) => ReadableText bs
  | .summary, (bs, _, _) => ReadableText bs
  | .deparse, tree | .deparseWithOptions, (tree, _) => TextsNulFree tree

/-- A required entry point answers through `some`. -/
theorem map_some_allocates {sh : Shape} {c : Call State sh.Record} {s : State}
    (h : ∃ raw t, c s = .ok raw t ∧ Allocated s t sh raw) :
    (some <$> c) s = .ok none s ∨
      ∃ raw t, (some <$> c) s = .ok (some raw) t ∧ Allocated s t sh raw := by
  obtain ⟨raw, t, hc, ha⟩ := h
  exact .inr ⟨raw, t, by simp only [Functor.map, EStateM.map, hc], ha⟩

/-- Splitting readable text boxes fewer than `2 ^ 31` statements. -/
theorem splitSpans_count {sql : String} (f : Flags) (hlen : sql.length < 2 ^ 31) :
    (splitSpans f sql).length < 2 ^ 31 := by
  rw [length_splitSpans]
  exact lt_of_le_of_lt (length_statements_le sql) hlen

/-- Every entry point, on an argument it can read, answers without panicking: an optional one
it lacks answers `none` and touches nothing, and otherwise the result's free takes back exactly
what the call allocated. -/
theorem entry_allocates (f : Flags) {en : Entry} {arg : en.Argument}
    (h : ReadableArgument en arg) (s : State) :
    (engine f).entry en arg s = .ok none s ∨
      ∃ raw t, (engine f).entry en arg s = .ok (some raw) t ∧ Allocated s t en.shape raw := by
  cases en with
  | normalize =>
    obtain ⟨sql, hin, hnul, -⟩ := h
    exact map_some_allocates (normalize_allocates f hin hnul s)
  | normalizeUtility =>
    obtain ⟨sql, hin, hnul, -⟩ := h
    exact map_some_allocates (normalizeUtility_allocates f hin hnul s)
  | scan =>
    obtain ⟨sql, hin, -, -⟩ := h
    exact map_some_allocates (scan_allocates f hin s)
  | parseJson =>
    obtain ⟨sql, hin, -, -⟩ := h
    exact map_some_allocates (parseJson_allocates f hin arg.2 s)
  | parseProtobuf =>
    obtain ⟨sql, hin, -, -⟩ := h
    exact map_some_allocates (parseProtobuf_allocates f hin arg.2 s)
  | parsePlpgsql =>
    obtain ⟨sql, hin, -, -⟩ := h
    exact map_some_allocates (parsePlpgsql_allocates f hin s)
  | fingerprint =>
    obtain ⟨sql, hin, -, -⟩ := h
    exact map_some_allocates (fingerprint_allocates f hin arg.2 s)
  | splitWithScanner =>
    obtain ⟨sql, hin, -, hlen⟩ := h
    exact map_some_allocates (splitWithScanner_allocates f hin (splitSpans_count f hlen) s)
  | splitWithParser =>
    obtain ⟨sql, hin, -, hlen⟩ := h
    exact map_some_allocates (splitWithParser_allocates f hin (splitSpans_count f hlen) s)
  | deparse => exact map_some_allocates (deparse_allocates f h s)
  | deparseWithOptions => exact map_some_allocates (deparseWithOptions_allocates f h arg.2 s)
  | deparseComments =>
    obtain ⟨sql, hin, hnul, -⟩ := h
    exact deparseComments_allocates f hin hnul s
  | summary =>
    obtain ⟨sql, hin, -, -⟩ := h
    exact summary_allocates f hin arg.2.1 arg.2.2 s

/-! ## Every operation -/

/-- The operations whose input the toy engine reads: SQL, as text or as caller bytes, is
well-formed UTF-8 shorter than `2 ^ 31` bytes, and the statement texts of a tree hold no NUL. -/
def Readable : Operation → Prop
  | .parse sql _ | .parseJson sql _ | .parsePlpgsql sql | .normalize sql | .normalizeUtility sql
  | .fingerprint sql _ | .split sql _ | .splitSpans sql _ | .scan sql | .extractComments sql
  | .summary sql _ _ => (Utf8.encode sql).length < 2 ^ 31
  | .parseBytes sql _ | .fingerprintBytes sql _ | .splitBytes sql _ | .scanBytes sql =>
    Utf8.valid sql = true ∧ sql.length < 2 ^ 31
  | .deparse t | .deparseWithOptions t _ | .deparseWithComments t _ _ =>
    TextsNulFree (Payload.ofBytes t.encode)
  | .deparseBytes tree => TextsNulFree (Payload.ofBytes tree)

/-- A copied text holds no NUL. -/
theorem readableText_of_ofText {sql : String} {buf : Buffer} (hbuf : Buffer.ofText sql = .ok buf)
    (hlen : (Utf8.encode sql).length < 2 ^ 31) : ReadableText buf.content := by
  unfold Buffer.ofText at hbuf
  dsimp only at hbuf
  split at hbuf
  · cases hbuf
  · rename_i hidx
    cases hbuf
    exact ⟨sql, Utf8.decode_encode sql,
      Utf8.nul_not_mem_of_encode (List.idxOf?_eq_none_iff.1 hidx),
      lt_of_le_of_lt (Utf8.length_le_length_encode sql) hlen⟩

/-- Terminated caller bytes that are well-formed UTF-8 hold readable text before their NUL. -/
theorem readableText_of_ofBytes {bs : Bytes} {buf : Buffer} (hbuf : Buffer.ofBytes bs = .ok buf)
    (hvalid : Utf8.valid bs = true) (hlen : bs.length < 2 ^ 31) : ReadableText buf.content := by
  obtain ⟨⟨hlast, hbody⟩, hcontent, -, -⟩ := (Buffer.ofBytes_eq_ok_iff bs buf).1 hbuf
  have hbs : bs.dropLast ++ [0] = bs := List.dropLast_append_getLast? _ hlast
  obtain ⟨sql, hsql⟩ := Utf8.decode_of_valid_concat_zero (hbs ▸ hvalid)
  have henc : bs.dropLast = Utf8.encode sql := (Utf8.decode_eq_ok_iff _ _).1 hsql
  have hsize : (Utf8.encode sql).length < 2 ^ 31 := by
    rw [← henc, List.length_dropLast]
    omega
  rw [hcontent]
  exact ⟨sql, hsql, Utf8.nul_not_mem_of_encode (henc ▸ hbody),
    lt_of_le_of_lt (Utf8.length_le_length_encode sql) hsize⟩

/-- An operation whose input the toy engine reads hands its entry point an argument it reads. -/
theorem readableArgument_of_readable {op : Operation} (h : Readable op)
    {arg : op.entry.Argument} (harg : op.argument = .ok arg) : ReadableArgument op.entry arg := by
  cases op <;> try cases ‹SplitAlgorithm›
  case deparse | deparseBytes =>
    cases harg
    exact h
  case deparseWithOptions | deparseWithComments =>
    obtain ⟨_, -, rfl⟩ := map_eq_ok_iff.1 harg
    exact h
  -- the text and byte forms hand over the content of their buffer
  all_goals obtain ⟨buf, hbuf, rfl⟩ := map_eq_ok_iff.1 harg
  all_goals first
    | exact readableText_of_ofText hbuf h
    | exact readableText_of_ofBytes hbuf h.1 h.2

/-- The ledger at `t` is as it was at `s`: as many more releases as dispatches, the same live
allocations, and no new bad free. -/
structure KeepsLedger (s t : State) : Prop where
  pace : t.dispatched + s.released = s.dispatched + t.released
  live : (t.live : Multiset Block) = s.live
  badFrees : t.badFrees = s.badFrees

theorem KeepsLedger.refl (s : State) : KeepsLedger s s := ⟨rfl, rfl, rfl⟩

theorem KeepsLedger.trans {s t u : State} (h₁ : KeepsLedger s t) (h₂ : KeepsLedger t u) :
    KeepsLedger s u where
  pace := by have := h₁.pace; have := h₂.pace; omega
  live := h₂.live.trans h₁.live
  badFrees := h₂.badFrees.trans h₁.badFrees

theorem KeepsLedger.balanced {s t : State} (h : KeepsLedger s t) (hs : s.balanced = true) :
    t.balanced = true := by
  simp only [State.balanced, Bool.and_eq_true, beq_iff_eq, List.isEmpty_iff] at hs ⊢
  obtain ⟨hd, hl⟩ := hs
  have hlive := h.live
  rw [hl, Multiset.coe_nil, Multiset.coe_eq_zero] at hlive
  exact ⟨by have := h.pace; omega, hlive⟩

/-- One operation on input the toy engine reads keeps the ledger: a precondition failure and a
missing optional entry point touch nothing, and any result the engine answers is released, which
takes back what its call allocated. -/
theorem exec_keeps_ledger (f : Flags) {op : Operation} (h : Readable op) (s : State) :
    KeepsLedger s ((op.exec (engine f)).after s) := by
  unfold Call.after
  rw [Operation.exec_apply]
  cases harg : op.argument with
  | error p => exact .refl s
  | ok arg =>
    have hnote : (engine f).note (Parser.dispatchRecord op.entry.shape) s = s := rfl
    dsimp only
    rw [hnote]
    rcases entry_allocates f (readableArgument_of_readable h harg) s with
      hnone | ⟨raw, t, hrun, ha⟩
    · rw [hnone]
      exact .refl s
    · rw [hrun]
      obtain ⟨s', hx, hview⟩ := Parser.extract_apply (engine f) _ op.entry.errorOf
        op.materialize raw t
      have hs' : s' = release op.entry.shape raw t :=
        hview id (release op.entry.shape raw) (fun _ _ => rfl) (fun _ => rfl)
      obtain ⟨hd, hr, hb, hl⟩ := ha.release
      simp only [hx, hs']
      exact ⟨by omega, hl, hb⟩

/-- A session of operations on input the toy engine reads keeps the ledger. -/
theorem session_keeps_ledger (f : Flags) {ops : List Operation} (h : ∀ op ∈ ops, Readable op)
    (s : State) : KeepsLedger s (Operation.session (engine f) ops s) := by
  induction ops generalizing s with
  | nil => exact .refl s
  | cons op ops ih =>
    rw [Operation.session_cons]
    exact (exec_keeps_ledger f (h op List.mem_cons_self) s).trans
      (ih (fun o ho => h o (List.mem_cons_of_mem _ ho)) _)

/-- From a fresh toy engine, whatever its flags, after each operation of a session on input it
reads, every dispatched result has been released, nothing allocated is left live, and no free has
been null or of something not live. -/
theorem session_ledger_balanced (f : Flags) (ops : List Operation)
    (h : ∀ op ∈ ops, Readable op) (k : Nat) :
    (Operation.session (engine f) (ops.take k) {}).balanced = true ∧
      (Operation.session (engine f) (ops.take k) {}).badFrees = 0 := by
  have hkeeps : KeepsLedger {} (Operation.session (engine f) (ops.take k) {}) :=
    session_keeps_ledger f (fun op hop => h op (List.mem_of_mem_take hop)) {}
  exact ⟨hkeeps.balanced rfl, hkeeps.badFrees⟩

theorem normalize_then_split_balanced :
    (∀ op ∈ [Operation.normalize "select 1", .split "select 1; from" .parser], Readable op) ∧
      (Operation.session (engine {})
        ([Operation.normalize "select 1", .split "select 1; from" .parser].take 2) {}).balanced =
          true ∧
      (Operation.session (engine {})
        ([Operation.normalize "select 1", .split "select 1; from" .parser].take 2) {}).badFrees =
          0 := by
  have hr : ∀ op ∈ [Operation.normalize "select 1", .split "select 1; from" .parser],
      Readable op := by
    simp only [List.mem_cons, List.not_mem_nil, or_false, forall_eq_or_imp, forall_eq, Readable]
    decide +kernel
  exact ⟨hr, session_ledger_balanced {} _ hr 2⟩

/-- One statement: the string constant `a`, NUL, `b`. -/
def nulStatementTree : Tree.ParseTree :=
  { version := 170005, stmts := [{ stmt := some (.typed (.mk .string [.text "a\x00b"])) }] }

/-- Deparsing a tree whose statement text holds a NUL panics in the engine after the dispatch is
counted, so the session is left with a dispatch that is never released. -/
theorem deparse_nul_statement_unreleased :
    (Operation.session (engine {}) [.deparse nulStatementTree] {}).dispatched = 1 ∧
      (Operation.session (engine {}) [.deparse nulStatementTree] {}).released = 0 := by
  have hdec := Tree.ParseTree.decode_encode nulStatementTree (by decide) (by decide)
    (by decide +kernel)
  have hne : nulStatementTree.encode ≠ [] := by decide +kernel
  have htexts : statementTexts (Payload.ofBytes nulStatementTree.encode) = some ["a\x00b"] := by
    simp only [statementTexts, Payload.ofBytes, List.isEmpty_iff, hne, if_false,
      List.length_eq_zero_iff, List.take_length, hdec]
    rfl
  obtain ⟨p, hp⟩ := deparseTree_of_nul {} htexts (by decide +kernel) {}
  have hentry : (engine {}).entry .deparse (Payload.ofBytes nulStatementTree.encode) {} =
      .error p { dispatched := 1 } := by
    show (some <$> deparseTree {} _) {} = _
    simp only [Functor.map, EStateM.map, hp]
  have hnote : (engine {}).note (Parser.dispatchRecord .deparse) {} = {} := rfl
  simp only [Operation.session_cons, Operation.session_nil, Call.after, Operation.exec_apply]
  dsimp only [Operation.argument, Operation.entry, Entry.shape]
  rw [hnote, hentry]
  exact ⟨rfl, rfl⟩

end Toy
end PgBinding
