import PgBinding.Engine.Basic
/-!
An engine whose diagnostics are kept in a journal beside its state.

The journaled engine runs every entry point of the engine it wraps on the first part of a paired
state and appends every diagnostic to the second, in the order they are recorded. Whoever drives
the engine can record diagnostics of its own in the same journal, so that one list holds them all
in the order they happened.
-/
namespace PgBinding

variable {σ : Type}

/-- Diagnostics in the order they were recorded. -/
abbrev Journal := List Log.Record

/-- Runs a call on the first part of a paired state, leaving the second as it is. -/
def Call.onFirst {τ α : Type} (c : Call σ α) : Call (σ × τ) α := fun st =>
  match c st.1 with
  | .ok a s => .ok a (s, st.2)
  | .error p s => .error p (s, st.2)

/-- Appends a diagnostic to the journal. -/
def Journal.record (r : Log.Record) : Call (σ × Journal) Unit :=
  modify fun st => (st.1, st.2 ++ [r])

/-- The engine that runs `e` on the first part of the state and keeps diagnostics in the
journal. -/
def Engine.journaled (e : Engine σ) : Engine (σ × Journal) where
  normalize bs := (e.normalize bs).onFirst
  normalizeUtility bs := (e.normalizeUtility bs).onFirst
  scan bs := (e.scan bs).onFirst
  parseJson bs o := (e.parseJson bs o).onFirst
  parseProtobuf bs o := (e.parseProtobuf bs o).onFirst
  parsePlpgsql bs := (e.parsePlpgsql bs).onFirst
  fingerprint bs o := (e.fingerprint bs o).onFirst
  splitWithScanner bs := (e.splitWithScanner bs).onFirst
  splitWithParser bs := (e.splitWithParser bs).onFirst
  deparse p := (e.deparse p).onFirst
  deparseWithOptions p o := (e.deparseWithOptions p o).onFirst
  deparseComments bs := (e.deparseComments bs).onFirst
  summary bs o n := (e.summary bs o n).onFirst
  release shape r st := (e.release shape r st.1, st.2)
  init st := (e.init st.1, st.2)
  exit st := (e.exit st.1, st.2)
  note r st := (st.1, st.2 ++ [r])

/-- Diagnostics go to the journal. -/
theorem Engine.journaled_note (e : Engine σ) (r : Log.Record) (s : σ) (j : Journal) :
    e.journaled.note r (s, j) = (s, j ++ [r]) := rfl

end PgBinding
