import PgBinding.Engine.Basic
import PgBinding.Buffer
/-!
The lifecycle of one engine call.

An operation checks its input, dispatches exactly one call, and hands the result to its
lifecycle: if the result carries an error record the engine error is copied out and the payload
is not looked at; otherwise the payload is copied out. Either way the result is released right
after, exactly once. An optional entry point the engine lacks is reported as unsupported, and then
nothing was dispatched and nothing is released.
-/
namespace PgBinding
namespace Parser

variable {σ : Type}

/-- Records a diagnostic. -/
def note (e : Engine σ) (level : Log.Level) (target message : String) : Call σ Unit :=
  modify (e.note ⟨level, target, message⟩)

/-- The lifecycle of a dispatched result `raw` of shape `shape`. -/
def extract {α : Type} (e : Engine σ) (shape : Shape) (errorOf : shape.Record → Option NativeError)
    (materialize : shape.Record → Except Error α) (raw : shape.Record) :
    Call σ (Except Error α) := do
  note e .trace "pgquery::lifecycle" s!"{shape.name} result acquired"
  let out ← match errorOf raw with
    | some record => do
      let err := EngineError.ofNative record
      note e .debug "pgquery::lifecycle"
        s!"{shape.name} failed: {err.message} (cursor {err.cursorPosition})"
      pure (Except.error (Error.engine err))
    | none => pure (materialize raw)
  modify (e.release shape raw)
  note e .trace "pgquery::lifecycle" s!"{shape.name} result released"
  pure out

/-- Dispatches one call and drives its result through the lifecycle. -/
def run {α : Type} (e : Engine σ) (shape : Shape) (invoke : Call σ shape.Record)
    (errorOf : shape.Record → Option NativeError) (materialize : shape.Record → Except Error α) :
    Call σ (Except Error α) := do
  note e .debug "pgquery::parser" s!"dispatching {shape.name}"
  let raw ← invoke
  extract e shape errorOf materialize raw

/-- Like `run`, for an entry point the engine may lack. -/
def runOptional {α : Type} (e : Engine σ) (shape : Shape) (symbol : String)
    (invoke : Call σ (Option shape.Record)) (errorOf : shape.Record → Option NativeError)
    (materialize : shape.Record → Except Error α) : Call σ (Except Error α) := do
  note e .debug "pgquery::parser" s!"dispatching {shape.name}"
  match ← invoke with
  | none => pure (.error (.unsupported symbol))
  | some raw => extract e shape errorOf materialize raw

/-- Continues with the buffer, or fails with its precondition before anything is dispatched. -/
def withBuffer {α : Type} (b : Except PreconditionError Buffer)
    (k : Buffer → Call σ (Except Error α)) : Call σ (Except Error α) :=
  match b with
  | .error p => pure (.error (.precondition p))
  | .ok buf => k buf

end Parser
end PgBinding
