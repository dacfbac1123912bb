import Mathlib
import PgBinding.Proofs.Operation
import PgBinding.Engine.Scripted
import PgBinding.Engine.Library
/-!
# Every dispatched result is released exactly once

An engine hands out result records and takes them back. What its owner can see of that is a
sequence of events: a result dispatched by an entry point, a result of some shape released.
The engine contract is stated against any view of the engine's state that records these events
(`Engine.Keeps`): an entry point that answers with a result dispatches it, one that is absent or
panics dispatches nothing, a release is one event, and diagnostics are not seen.

Under that contract one operation either leaves the view as it was or adds exactly one cycle:
the dispatch of its own entry point, then the release of that entry point's shape
(`Operation.exec_keeps`). A session is therefore a sequence of such cycles, one for each
operation that dispatched (`Operation.session_releases_each_dispatch`).

The scripted engine keeps the contract through its ledger, plugged in directly or behind a
library with any set of optional symbols, so its ledger stays balanced over every session.
-/

namespace PgBinding

variable {σ ω : Type}

/-- What happens to results, seen from outside the engine. -/
inductive Event where
  /-- An entry point answered with a result. -/
  | dispatch (entry : Entry)
  /-- A result of this shape was handed back. -/
  | release (shape : Shape)

/-- One result's life: dispatched by an entry point, then released as that entry point's
shape. -/
def Event.cycle (record : Event → ω → ω) (en : Entry) (w : ω) : ω :=
  record (.release en.shape) (record (.dispatch en) w)

/-- What one call of entry point `en` does to the view: answering with a result dispatches it;
being absent, or panicking, dispatches nothing. -/
def Dispatches (view : σ → ω) (record : Event → ω → ω) (en : Entry) {R : Type}
    (c : Call σ (Option R)) (s : σ) : Prop :=
  match c s with
  | .ok (some _) s' => view s' = record (.dispatch en) (view s)
  | .ok none s' => view s' = view s
  | .error _ s' => view s' = view s

/-- The engine contract as a view of the engine's state records it. -/
structure Engine.Keeps (e : Engine σ) (view : σ → ω) (record : Event → ω → ω) : Prop where
  entry : ∀ en arg s, Dispatches view record en (e.entry en arg) s
  release : ∀ sh r s, view (e.release sh r s) = record (.release sh) (view s)
  note : ∀ r s, view (e.note r s) = view s

/-! ## Tracing an engine

Any engine can be watched: the traced engine runs it on the first part of a paired state and
writes each event into the second, so the contract holds of it by construction, whatever the
engine answers. -/

/-- Runs a call on the first part of the state; a result that comes back is a dispatch of
`en`. -/
def Call.traced {α : Type} (en : Entry) (c : Call σ α) : Call (σ × List Event) α := fun st =>
  match c st.1 with
  | .ok a s => .ok a (s, st.2 ++ [.dispatch en])
  | .error p s => .error p (s, st.2)

/-- Like `Call.traced`, for an entry point that may be absent: only a result is a dispatch. -/
def Call.tracedOptional {α : Type} (en : Entry) (c : Call σ (Option α)) :
    Call (σ × List Event) (Option α) := fun st =>
  match c st.1 with
  | .ok (some a) s => .ok (some a) (s, st.2 ++ [.dispatch en])
  | .ok none s => .ok none (s, st.2)
  | .error p s => .error p (s, st.2)

/-- The engine `e` with the events it takes part in written down beside its state. -/
def Engine.traced (e : Engine σ) : Engine (σ × List Event) where
  normalize bs := (e.normalize bs).traced .normalize
  normalizeUtility bs := (e.normalizeUtility bs).traced .normalizeUtility
  scan bs := (e.scan bs).traced .scan
  parseJson bs o := (e.parseJson bs o).traced .parseJson
  parseProtobuf bs o := (e.parseProtobuf bs o).traced .parseProtobuf
  parsePlpgsql bs := (e.parsePlpgsql bs).traced .parsePlpgsql
  fingerprint bs o := (e.fingerprint bs o).traced .fingerprint
  splitWithScanner bs := (e.splitWithScanner bs).traced .splitWithScanner
  splitWithParser bs := (e.splitWithParser bs).traced .splitWithParser
  deparse p := (e.deparse p).traced .deparse
  deparseWithOptions p o := (e.deparseWithOptions p o).traced .deparseWithOptions
  deparseComments bs := (e.deparseComments bs).tracedOptional .deparseComments
  summary bs o limit := (e.summary bs o limit).tracedOptional .summary
  release shape r st := (e.release shape r st.1, st.2 ++ [.release shape])
  init st := (e.init st.1, st.2)
  exit st := (e.exit st.1, st.2)
  note r st := (e.note r st.1, st.2)

theorem Call.traced_dispatches {α : Type} (en : Entry) (c : Call σ α) (st : σ × List Event) :
    Dispatches Prod.snd (fun ev t => t ++ [ev]) en (some <$> c.traced en) st := by
  simp only [Dispatches, Call.traced, Functor.map, EStateM.map]
  cases c st.1 <;> rfl

theorem Call.tracedOptional_dispatches {α : Type} (en : Entry) (c : Call σ (Option α))
    (st : σ × List Event) :
    Dispatches Prod.snd (fun ev t => t ++ [ev]) en (c.tracedOptional en) st := by
  simp only [Dispatches, Call.tracedOptional]
  rcases c st.1 with ⟨_ | a, s⟩ | ⟨p, s⟩ <;> rfl

/-- Every engine, traced, keeps the contract with its trace as the view. -/
theorem Engine.traced_keeps (e : Engine σ) :
    e.traced.Keeps Prod.snd (fun ev t => t ++ [ev]) where
  entry en arg st := by
    cases en
    case deparseComments => exact Call.tracedOptional_dispatches _ _ st
    case summary => exact Call.tracedOptional_dispatches _ _ st
    all_goals exact Call.traced_dispatches _ _ st
  release _ _ _ := rfl
  note _ _ := rfl

namespace Operation

variable {e : Engine σ} {view : σ → ω} {record : Event → ω → ω}

/-- One operation adds at most one cycle, and the cycle is its own entry point's. -/
theorem exec_keeps (he : e.Keeps view record) (op : Operation) (s : σ) :
    view ((op.exec e).after s) = view s ∨
      view ((op.exec e).after s) = Event.cycle record op.entry (view s) := by
  unfold Call.after
  rw [exec_apply]
  cases op.argument with
  | error p => exact .inl rfl
  | ok arg =>
    -- the call is made after the dispatch diagnostic, which the view does not see
    have hnote := he.note (Parser.dispatchRecord op.entry.shape) s
    have hcall := he.entry op.entry arg (e.note (Parser.dispatchRecord op.entry.shape) s)
    rcases hres : e.entry op.entry arg (e.note (Parser.dispatchRecord op.entry.shape) s) with
      ⟨_ | raw, s'⟩ | ⟨p, s'⟩ <;> simp only [Dispatches, hres] at hcall ⊢
    · exact .inl (hcall.trans hnote)
    · obtain ⟨s'', hx, hv⟩ :=
        Parser.extract_apply e op.entry.shape op.entry.errorOf op.materialize raw s'
      rw [hx]
      refine .inr ?_
      calc view s''
          = record (.release op.entry.shape) (view s') := hv view _ he.note (he.release _ _)
        _ = Event.cycle record op.entry (view s) := by rw [hcall, hnote]; rfl
    · exact .inl (hcall.trans hnote)

/-- Over a whole session the view gains one cycle for each operation that dispatched, in the
order the operations ran, and nothing else: every dispatched result is released once, right
after its call, as its own entry point's shape. -/
theorem session_releases_each_dispatch (he : e.Keeps view record) (ops : List Operation)
    (s : σ) :
    ∃ done : List Entry, done.Sublist (ops.map entry) ∧
      view (session e ops s) = done.foldl (fun w en => Event.cycle record en w) (view s) := by
  induction ops generalizing s with
  | nil => exact ⟨[], .slnil, rfl⟩
  | cons op ops ih =>
    obtain ⟨done, hsub, hview⟩ := ih ((op.exec e).after s)
    rw [session_cons, hview]
    rcases exec_keeps he op s with hstep | hstep
    · exact ⟨done, hsub.cons _, by rw [hstep]⟩
    · exact ⟨op.entry :: done, hsub.cons_cons _, by rw [hstep]; rfl⟩

/-- A session on the directly plugged-in scripted engine, traced: a parse, then an extraction of
comments the script declares absent. -/
theorem traced_direct_session_releases :
    Scripted.direct.traced.Keeps Prod.snd (fun ev t => t ++ [ev]) ∧
      ∃ done : List Entry,
        done.Sublist ([parse "select 1" {}, extractComments "select 1 -- one"].map entry) ∧
        (session Scripted.direct.traced [parse "select 1" {}, extractComments "select 1 -- one"]
          (Scripted.State.ofScript [{}, { absent := true }], [])).2 =
          done.foldl (fun w en => Event.cycle (fun ev t => t ++ [ev]) en w) [] :=
  ⟨Scripted.direct.traced_keeps,
    session_releases_each_dispatch Scripted.direct.traced_keeps _ _⟩

/-- Appending cycles to a trace one by one writes each dispatch and, right after it, the
release of its shape. -/
theorem foldl_cycle_append (done : List Entry) (t : List Event) :
    done.foldl (fun w en => Event.cycle (fun ev t => t ++ [ev]) en w) t =
      t ++ done.flatMap fun en => [.dispatch en, .release en.shape] := by
  induction done generalizing t with
  | nil => simp
  | cons en done ih =>
    rw [List.foldl_cons, ih, List.flatMap_cons]
    simp [Event.cycle]

/-- Whatever the engine and whatever it answers, the trace of a session is a run of cycles,
one per operation that dispatched: each dispatch followed at once by the release of its own
shape, and no release otherwise. -/
theorem session_trace (e : Engine σ) (ops : List Operation) (s : σ) :
    ∃ done : List Entry, done.Sublist (ops.map entry) ∧
      (session e.traced ops (s, [])).2 = done.flatMap fun en => [.dispatch en, .release en.shape] := by
  obtain ⟨done, hsub, htrace⟩ := session_releases_each_dispatch e.traced_keeps ops (s, [])
  exact ⟨done, hsub, by rw [htrace, foldl_cycle_append, List.nil_append]⟩

end Operation

/-! ## The scripted engine's ledger -/

namespace Scripted

/-- The ledger, event by event: a dispatch counts a result out, a release counts one back and
is a bad free when nothing was outstanding. -/
def Ledger.record : Event → Ledger → Ledger
  | .dispatch _, l => { l with dispatched := l.dispatched + 1 }
  | .release _, l =>
    { l with released := l.released + 1
             badFrees := l.badFrees + if l.dispatched ≤ l.released then 1 else 0 }

/-- An entry point that dispatches and answers with what the response holds counts one result
out and leaves the rest of the ledger alone. -/
theorem dispatch_keeps {β : Type} (en : Entry) (answer : Response → β) (entry : String)
    (argument : Argument) (s : State) :
    Dispatches State.ledger Ledger.record en ((fun r => some (answer r)) <$> dispatch entry argument)
      s := by
  simp only [Dispatches, dispatch, log, pop, Functor.map, EStateM.map, bind, EStateM.bind, modify, modifyGet,
    MonadStateOf.modifyGet, EStateM.modifyGet]
  cases s.script <;> rfl

theorem stub_keeps : stub.Keeps State.ledger Ledger.record where
  entry en arg s := by
    cases en <;> simp only [Engine.entry, stub, bind_pure_comp, Functor.map_map] <;>
      exact dispatch_keeps _ _ _ _ s
  release _ _ _ := rfl
  note _ _ := rfl

/-- An optional entry point plugged in directly dispatches unless the response says it is
absent; an absent one is logged and consumes its response, but counts nothing. -/
theorem optional_keeps {β : Type} (en : Entry) (entry : String) (argument : Argument)
    (answer : Response → β) (s : State) :
    Dispatches State.ledger Ledger.record en (optional entry argument answer) s := by
  unfold optional
  simp only [Dispatches, dispatch, log, bind, EStateM.bind, modify, modifyGet, get, getThe,
    MonadStateOf.get, EStateM.get, MonadStateOf.modifyGet, pure]
  rcases hs : s.script with _ | ⟨r, rest⟩
  · simp [EStateM.bind, EStateM.modifyGet, EStateM.pure, pop, hs, Ledger.record]
  · by_cases hr : r.absent <;>
      simp [EStateM.bind, EStateM.modifyGet, EStateM.pure, pop, hs, hr, Ledger.record]

theorem direct_keeps : direct.Keeps State.ledger Ledger.record where
  entry en arg s := by
    cases en
    case deparseComments => exact optional_keeps _ _ _ _ s
    case summary => exact optional_keeps _ _ _ _ s
    all_goals exact stub_keeps.entry _ arg s
  release _ _ _ := rfl
  note _ _ := rfl

/-- Every result handed out has come back, and nothing came back that was not out. -/
def Ledger.Balanced (l : Ledger) : Prop := l.released = l.dispatched ∧ l.badFrees = 0

theorem Ledger.Balanced.live_eq_zero {l : Ledger} (h : l.Balanced) : l.live = 0 := by
  simp [Ledger.live, h.1]

theorem Ledger.Balanced.cycle {l : Ledger} (h : l.Balanced) (en : Entry) :
    (Event.cycle Ledger.record en l).Balanced := by
  obtain ⟨hreleased, hbad⟩ := h
  simp only [Event.cycle, Ledger.record, Balanced]
  -- the release finds the dispatch it follows outstanding, so it is no bad free
  have hout : ¬ l.dispatched + 1 ≤ l.released := by omega
  simp only [hout, if_false]
  omega

theorem Ledger.Balanced.foldl_cycle {l : Ledger} (h : l.Balanced) (done : List Entry) :
    (done.foldl (fun w en => Event.cycle Ledger.record en w) l).Balanced := by
  induction done generalizing l with
  | nil => exact h
  | cons en done ih => exact ih (h.cycle en)

end Scripted

/-- A library's engine keeps the contract of the exported entry points it is built on: an
optional pair the library lacks is never reached, so it dispatches nothing. -/
theorem Library.Loaded.engine_keeps (l : Library.Loaded) {e : Engine σ} {view : σ → ω}
    {record : Event → ω → ω} (he : e.Keeps view record) : (l.engine e).Keeps view record where
  entry en arg s := by
    cases en
    case deparseComments =>
      show Dispatches view record _ (if l.deparseComments then e.deparseComments arg else pure none) s
      split
      · exact he.entry .deparseComments arg s
      · rfl
    case summary =>
      show Dispatches view record _
        (if l.summary then e.summary arg.1 arg.2.1 arg.2.2 else pure none) s
      split
      · exact he.entry .summary arg s
      · rfl
    all_goals exact he.entry _ arg s
  release := he.release
  note := he.note

namespace Scripted

/-- Whichever way the scripted engine is reached, a session that starts with a balanced ledger
ends with one: nothing is left live and nothing is freed twice. -/
theorem session_balanced {e : Engine State} (he : e.Keeps State.ledger Ledger.record)
    (ops : List Operation) {s : State} (hs : s.ledger.Balanced) :
    (Operation.session e ops s).ledger.Balanced := by
  obtain ⟨done, -, hview⟩ := Operation.session_releases_each_dispatch he ops s
  rw [hview]
  exact hs.foldl_cycle done

end Scripted

end PgBinding
