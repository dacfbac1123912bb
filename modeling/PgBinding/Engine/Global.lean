import PgBinding.Engine.Library
/-!
The process-wide library.

A process keeps one loaded library in a cell that is set at most once. A request for it either
names a path to install, or leaves the path to the environment (the default library). While the
cell is empty a request opens the library at its path: a library that opens fills the cell, and
one that fails leaves the cell empty, its error being the answer, so a failure is never kept.
Once the cell is full every request answers the library it holds, whatever path it names.

The cell and its get-or-initialize operation come from a package outside the binding. The
operation is a parameter here, and `OnceCellLaws` states the behaviour the binding relies on.
The diagnostics a load records are left out of this view; the command line tool, which makes one
request in a process, records them (`Cli.Host.loadLibrary`).
-/
namespace PgBinding
namespace Library

/-- A once-cell's get-or-initialize operation for a cell holding a loaded library: given what
the cell holds and an initializer, the answer and what the cell holds afterwards. -/
abbrev GetOrTryInit : Type :=
  Option Loaded → (Unit → Except Error Loaded) → Except Error Loaded × Option Loaded

/-- What the binding relies on of its once-cell: a full cell answers its value and keeps it
without running the initializer; an empty one runs the initializer once, keeping the value it
gives, or answering its error and staying empty. -/
structure OnceCellLaws (getOrTryInit : GetOrTryInit) : Prop where
  full : ∀ l init, getOrTryInit (some l) init = (.ok l, some l)
  fills : ∀ init l, init () = .ok l → getOrTryInit none init = (.ok l, some l)
  fails : ∀ init e, init () = .error e → getOrTryInit none init = (.error e, none)

/-- A request for the process-wide library. -/
inductive Request where
  /-- The default library: the one the environment names, else the platform's. -/
  | global
  /-- The library at a path, installed unless one already is. -/
  | install (path : String)
  deriving Repr, DecidableEq

namespace Request

/-- Where a request opens the library, given the environment variable naming the library. -/
def path (env : Option String) : Request → String
  | .global => defaultPath env
  | .install p => p

/-- What opening the library a request names gives. -/
def opened (image : String → Image) (env : Option String) (r : Request) : Except Error Loaded :=
  (load image (r.path env)).2

/-- Answers one request from the cell: the answer, and what the cell holds after it. -/
def answer (getOrTryInit : GetOrTryInit) (image : String → Image) (env : Option String)
    (r : Request) (cell : Option Loaded) : Except Error Loaded × Option Loaded :=
  getOrTryInit cell fun _ => r.opened image env

end Request

/-- Answers requests one after another from one cell: the answers in order, and what the cell
holds after the last. -/
def answerAll (getOrTryInit : GetOrTryInit) (image : String → Image) (env : Option String) :
    List Request → Option Loaded → List (Except Error Loaded) × Option Loaded
  | [], cell => ([], cell)
  | r :: rs, cell =>
    let (a, cell') := r.answer getOrTryInit image env cell
    let (as, final) := answerAll getOrTryInit image env rs cell'
    (a :: as, final)

end Library
end PgBinding
