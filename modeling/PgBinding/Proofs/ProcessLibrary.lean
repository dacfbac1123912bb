import Mathlib
import PgBinding.Cli.Run
import PgBinding.Proofs.LibraryResolution
/-!
# The process-wide library is fixed by its first successful open

Requests for the process-wide library are answered from a once-cell. The statement this file
exists for is `process_library_fixed_by_first_open`: over every sequence of requests, each
request before the first one whose library opens answers its own load error and leaves the cell
empty; that request fills the cell with its library, opened from its own path; and every request
after it answers that same library, whatever it names. A request for the default library opens
what the environment names when it names something, else the platform's file, and a session of
the command line tool requests the library it was given, else its configuration's, else the
default one.

The step lemmas say what one request does to the cell (`answer_of_full`, `answer_of_opens`,
`answer_of_fails`); the run lemmas follow by induction over the requests.
-/
namespace PgBinding
namespace Library

section Cell

variable {getOrTryInit : GetOrTryInit} (laws : OnceCellLaws getOrTryInit)
  {image : String → Image} {env : Option String}
include laws

/-! ## One request -/

theorem answer_of_full (r : Request) (l : Loaded) :
    r.answer getOrTryInit image env (some l) = (.ok l, some l) :=
  laws.full l _

theorem answer_of_opens {r : Request} {l : Loaded} (h : r.opened image env = .ok l) :
    r.answer getOrTryInit image env none = (.ok l, some l) :=
  laws.fills _ l h

theorem answer_of_fails {r : Request} {e : Error} (h : r.opened image env = .error e) :
    r.answer getOrTryInit image env none = (.error e, none) :=
  laws.fails _ e h

/-! ## Runs of requests -/

/-- Once the cell holds a library, every request answers it and the cell keeps it. -/
theorem answerAll_of_full (l : Loaded) (rs : List Request) :
    answerAll getOrTryInit image env rs (some l) = (rs.map fun _ => .ok l, some l) := by
  induction rs with
  | nil => rfl
  | cons r rs ih => simp only [answerAll, answer_of_full laws, ih, List.map_cons]

/-- Requests whose libraries all fail to open answer their own errors and leave the cell
empty. -/
theorem answerAll_of_fail (rs : List Request)
    (hfail : ∀ q ∈ rs, ∃ e, q.opened image env = .error e) :
    answerAll getOrTryInit image env rs none = (rs.map (·.opened image env), none) := by
  induction rs with
  | nil => rfl
  | cons r rs ih =>
    obtain ⟨e, he⟩ := hfail r List.mem_cons_self
    have hrest := ih fun q hq => hfail q (List.mem_cons_of_mem r hq)
    simp only [answerAll, answer_of_fails laws he, hrest, List.map_cons, he]

end Cell

/-- Requests answered in two runs: the second starts from the cell the first leaves. -/
theorem answerAll_append (getOrTryInit : GetOrTryInit) (image : String → Image)
    (env : Option String) (xs ys : List Request) (cell : Option Loaded) :
    answerAll getOrTryInit image env (xs ++ ys) cell =
      let first := answerAll getOrTryInit image env xs cell
      let second := answerAll getOrTryInit image env ys first.2
      (first.1 ++ second.1, second.2) := by
  induction xs generalizing cell with
  | nil => rfl
  | cons x xs ih => simp only [List.cons_append, answerAll, ih, List.cons_append]

/-! ## What opening gives -/

/-- A library that opens was loaded from the path its request names. -/
theorem Request.path_of_opened {image : String → Image} {env : Option String} {r : Request}
    {l : Loaded} (h : r.opened image env = .ok l) : l.path = r.path env := by
  unfold Request.opened at h
  cases himage : image (r.path env) with
  | unloadable reason => rw [load_of_unloadable himage] at h; cases h
  | exports syms =>
    rw [load_of_exports himage] at h
    split at h
    · cases h
    · cases h
      rfl

/-- Opening fails only because the library cannot be loaded or lacks a required symbol. -/
theorem Request.opened_error {image : String → Image} {env : Option String} {r : Request}
    {e : Error} (h : r.opened image env = .error e) :
    (∃ path reason, e = .load path reason) ∨ (∃ s source, e = .missingSymbol s source) := by
  unfold Request.opened at h
  cases himage : image (r.path env) with
  | unloadable reason =>
    rw [load_of_unloadable himage] at h
    cases h
    exact .inl ⟨_, _, rfl⟩
  | exports syms =>
    rw [load_of_exports himage] at h
    split at h
    · cases h
      exact .inr ⟨_, _, rfl⟩
    · cases h

theorem defaultPath_of_ne_empty {v : String} (h : v ≠ "") : defaultPath (some v) = v := by
  simp [defaultPath, String.isEmpty_iff, h]

/-- The process-wide library, for any once-cell that behaves as documented: over every sequence
of requests, those before the first whose library opens answer their own load errors and leave
nothing installed; that one installs its library, loaded from its own path; every later request
answers the same library; a full cell answers its library to every request. The default request
opens what the environment names when that is not empty, else the platform's file, and a session
requests the library given, else the configuration's, else the default. -/
theorem process_library_fixed_by_first_open (getOrTryInit : GetOrTryInit)
    (laws : OnceCellLaws getOrTryInit) (image : String → Image) (env : Option String) :
    (∀ pre r post l, (∀ q ∈ pre, ∃ e, q.opened image env = .error e) →
      r.opened image env = .ok l →
      answerAll getOrTryInit image env (pre ++ r :: post) none =
        (pre.map (·.opened image env) ++ .ok l :: post.map (fun _ => .ok l), some l)) ∧
    (∀ rs, (∀ q ∈ rs, ∃ e, q.opened image env = .error e) →
      answerAll getOrTryInit image env rs none = (rs.map (·.opened image env), none)) ∧
    (∀ l rs, answerAll getOrTryInit image env rs (some l) = (rs.map fun _ => .ok l, some l)) ∧
    (∀ (r : Request) (l : Loaded), r.opened image env = .ok l → l.path = r.path env) ∧
    (∀ (r : Request) (e : Error), r.opened image env = .error e →
      (∃ path reason, e = .load path reason) ∨ (∃ s source, e = .missingSymbol s source)) ∧
    (∀ v, v ≠ "" → Request.global.path (some v) = v) ∧
    Request.global.path (some "") = fileName ∧ Request.global.path none = fileName ∧
    (∀ path config, Cli.sessionRequest (some path) config = .install path) ∧
    (∀ config path, config.library = some path → Cli.sessionRequest none config = .install path) ∧
    (∀ config : Cli.Config, config.library = none → Cli.sessionRequest none config = .global) := by
  refine ⟨fun pre r post l hpre hr => ?_, answerAll_of_fail laws, answerAll_of_full laws,
    fun r l h => Request.path_of_opened h, fun r e h => Request.opened_error h,
    fun v hv => defaultPath_of_ne_empty hv, rfl, rfl, fun path config => rfl,
    fun config path h => by simp [Cli.sessionRequest, h],
    fun config h => by simp [Cli.sessionRequest, h]⟩
  -- the failing prefix leaves the cell empty, `r` fills it, and the rest find it full
  have hfirst := answerAll_of_fail laws pre hpre
  have hrest : answerAll getOrTryInit image env post (some l) = _ := answerAll_of_full laws l post
  simp only [answerAll_append, hfirst, answerAll, answer_of_opens laws hr, hrest]

/-- The once-cell operation as its documentation describes it. -/
def onceCell : GetOrTryInit
  | some l, _ => (.ok l, some l)
  | none, init =>
    match init () with
    | .ok l => (.ok l, some l)
    | .error e => (.error e, none)

theorem onceCell_laws : OnceCellLaws onceCell where
  full _ _ := rfl
  fills init l h := by simp [onceCell, h]
  fails init e h := by simp [onceCell, h]

/-- A machine with one complete library at the platform's file name and nothing elsewhere. -/
def singleLibraryImage (path : String) : Image :=
  if path = fileName then .exports allSymbols else .unloadable (path ++ ": cannot open shared object file")

/-- The library of that machine, with every optional part. -/
def singleLibrary : Loaded := ⟨fileName, true, true, true, true⟩

/-- A failed install is not kept; the next install fills the cell, and a later install of the
missing path and a request for the default both answer the installed library. -/
theorem failed_install_not_kept :
    OnceCellLaws onceCell ∧
    answerAll onceCell singleLibraryImage none
        [.install "missing.so", .install fileName, .install "missing.so", .global] none =
      ([.error (.load "missing.so" "missing.so: cannot open shared object file"),
        .ok singleLibrary, .ok singleLibrary, .ok singleLibrary], some singleLibrary) :=
  ⟨onceCell_laws, (process_library_fixed_by_first_open onceCell onceCell_laws singleLibraryImage
    none).1 [.install "missing.so"] (.install fileName) [.install "missing.so", .global]
    singleLibrary (fun q hq => by simp only [List.mem_singleton] at hq; subst hq; exact ⟨_, rfl⟩)
    rfl⟩

end Library
end PgBinding
