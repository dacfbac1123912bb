import Mathlib
import PgBinding.Engine.Library
import PgBinding.Proofs.Operation
/-!
# Resolving a shared library

Loading a library resolves its catalog: the nineteen required symbols in a fixed order, the first
missing one failing the load, then the optional parts, a call and its release counting only
together. The statement this file exists for is `libraries_resolve_in_catalog_order`: for every
loader image, exactly which error a load reports, which optional parts a loaded library has, and
that the loaded engine runs an operation as the library's entry points do when the library
provides its entry point, and answers without reaching the library at all when it does not.

The missing symbol is described without the search that finds it (`FirstMissing`), as the first
symbol of the catalog that the library lacks after a prefix that it has.
-/
namespace PgBinding
namespace Library

/-- `s` is the first symbol of the required catalog that a library exporting `syms` lacks. -/
def FirstMissing (syms : List String) (s : String) : Prop :=
  ∃ pre post, required = pre ++ s :: post ∧ (∀ q ∈ pre, q ∈ syms) ∧ s ∉ syms

theorem find?_missing_eq_some_iff (syms : List String) (s : String) :
    required.find? (fun q => !syms.contains q) = some s ↔ FirstMissing syms s := by
  rw [List.find?_eq_some_iff_append]
  constructor
  · rintro ⟨hs, pre, post, heq, hpre⟩
    exact ⟨pre, post, heq, fun q hq => by simpa using hpre q hq, by simpa using hs⟩
  · rintro ⟨pre, post, heq, hpre, hs⟩
    exact ⟨by simpa using hs, pre, post, heq, fun q hq => by simpa using hpre q hq⟩

theorem find?_missing_eq_none_iff (syms : List String) :
    required.find? (fun q => !syms.contains q) = none ↔ ∀ q ∈ required, q ∈ syms := by
  simp [List.find?_eq_none]

section Load

variable {image : String → Image} {path : String}

theorem load_of_unloadable {reason : String} (h : image path = .unloadable reason) :
    (load image path).2 = .error (.load path reason) := by
  simp [load, h]

/-- What loading a library makes of the symbols it exports: the first missing required one, or
a library with each optional pair present exactly when both halves are. -/
theorem load_of_exports {syms : List String} (h : image path = .exports syms) :
    (load image path).2 = match required.find? (fun q => !syms.contains q) with
      | some s => .error (.missingSymbol s (undefinedSymbol path s))
      | none => .ok { path
                      deparseComments := syms.contains commentsPair.1 && syms.contains commentsPair.2
                      summary := syms.contains summaryPair.1 && syms.contains summaryPair.2
                      init := syms.contains initSymbol
                      exit := syms.contains exitSymbol } := by
  simp only [load, h]
  cases required.find? (fun q => !syms.contains q) <;> rfl

end Load

namespace Loaded

variable {σ : Type}

/-- Whether a loaded library reaches an entry point: every required one, and an optional one when
both halves of its pair were resolved. -/
def provides (l : Loaded) : Entry → Bool
  | .deparseComments => l.deparseComments
  | .summary => l.summary
  | _ => true

/-- The library's engine calls an entry point the library provides as the library exports it,
and answers `none` for one it lacks without calling anything. -/
theorem engine_entry (l : Loaded) (symbols : Engine σ) (en : Entry) (arg : en.Argument) :
    (l.engine symbols).entry en arg =
      if l.provides en then symbols.entry en arg else pure none := by
  cases en <;> rfl

/-- An operation whose entry point the library provides runs as the library's entry points run
it. -/
theorem exec_engine_of_provides (l : Loaded) (symbols : Engine σ) {op : Operation}
    (h : l.provides op.entry = true) : op.exec (l.engine symbols) = op.exec symbols := by
  rw [Operation.exec_eq, Operation.exec_eq]
  -- the two engines differ only in entry points and set-up, and this entry point is shared
  have hentry : (l.engine symbols).entry op.entry = symbols.entry op.entry := by
    funext arg
    rw [engine_entry, if_pos h]
  rw [hentry]
  rfl

/-- An operation whose entry point the library lacks answers unsupported after its input was
checked and the dispatch noted, whatever the library's entry points would do. -/
theorem exec_engine_of_lacks (l : Loaded) (symbols : Engine σ) {op : Operation}
    (h : l.provides op.entry = false) (s : σ) :
    op.exec (l.engine symbols) s = match op.argument with
      | .error p => .ok (.error (.precondition p)) s
      | .ok _ => .ok (.error (.unsupported op.entry.symbol))
          (symbols.note (Parser.dispatchRecord op.entry.shape) s) := by
  rw [Operation.exec_apply]
  cases op.argument with
  | error p => rfl
  | ok arg =>
    simp only [engine_entry, h, Bool.false_eq_true, if_false]
    rfl

end Loaded

/-- Loading a library at any path: an image the loader cannot load is a load error; otherwise the
load fails exactly when a required symbol is missing, naming the first one in catalog order, and
a loaded library has each optional pair exactly when it exports both halves. Its engine runs an
operation as the library's own entry points when the library provides the operation's entry
point, and otherwise answers unsupported (or the input's precondition) without reaching the
library; its set-up and tear-down are the library's when exported, else nothing. -/
theorem libraries_resolve_in_catalog_order (image : String → Image) (path : String) :
    required.length = 19 ∧
    (∀ reason, image path = .unloadable reason → (load image path).2 = .error (.load path reason)) ∧
    ∀ syms, image path = .exports syms →
      (∀ s, (∃ source, (load image path).2 = .error (.missingSymbol s source)) ↔
        FirstMissing syms s) ∧
      ((∃ l, (load image path).2 = .ok l) ↔ ∀ q ∈ required, q ∈ syms) ∧
      ∀ l, (load image path).2 = .ok l →
        l.path = path ∧
        (l.deparseComments = true ↔ commentsPair.1 ∈ syms ∧ commentsPair.2 ∈ syms) ∧
        (l.summary = true ↔ summaryPair.1 ∈ syms ∧ summaryPair.2 ∈ syms) ∧
        ∀ {σ : Type} (symbols : Engine σ),
          (∀ op : Operation, l.provides op.entry = true →
            op.exec (l.engine symbols) = op.exec symbols) ∧
          (∀ (op : Operation) (s : σ), l.provides op.entry = false →
            op.exec (l.engine symbols) s = match op.argument with
              | .error p => .ok (.error (.precondition p)) s
              | .ok _ => .ok (.error (.unsupported op.entry.symbol))
                  (symbols.note (Parser.dispatchRecord op.entry.shape) s)) ∧
          (l.engine symbols).init = (if initSymbol ∈ syms then symbols.init else id) ∧
          (l.engine symbols).exit = (if exitSymbol ∈ syms then symbols.exit else id) := by
  refine ⟨rfl, fun reason h => load_of_unloadable h, fun syms h => ?_⟩
  rw [load_of_exports h]
  refine ⟨fun s => ?_, ?_, fun l hl => ?_⟩
  · rw [← find?_missing_eq_some_iff]
    cases required.find? (fun q => !syms.contains q) with
    | none => simp
    | some m => simp [eq_comm]
  · rw [← find?_missing_eq_none_iff]
    cases required.find? (fun q => !syms.contains q) <;> simp
  · -- a load that succeeds found no required symbol missing
    split at hl
    · cases hl
    · cases hl
      refine ⟨rfl, by simp, by simp, fun symbols => ⟨fun op hp => Loaded.exec_engine_of_provides _
        symbols hp, fun op s hp => Loaded.exec_engine_of_lacks _ symbols hp s, ?_, ?_⟩⟩
      · simp [Loaded.engine]
      · simp [Loaded.engine]

end Library
end PgBinding
