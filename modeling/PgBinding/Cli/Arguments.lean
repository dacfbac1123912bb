import PgBinding.Cli.Help
import PgBinding.Text.Similarity
/-!
Reading a command line against the shape of a tool.

The words are read one level at a time: the tool's options until a subcommand is named, then the
subcommand's options and operand. A long option is `--name` or `--name=value`; short options may
be clustered (`-vs`), and the last of a cluster may carry its value (`-mvalue`, `-m=value`). An
option that takes a value and has none attached takes the next word. After `--` every word is an
operand.

A value is not checked when it is read but when the next option is taken, or at the end of its
level, so that an option missing its value is reported when the next option arrives. A count
saturates at 255; a flag or a valued option given twice is refused.

What goes wrong is reported in the words of a command line parser: the message, a tip naming a
similar name when one is close enough (Jaro similarity above 0.7), the usage line, and a pointer
to `--help`.
-/
namespace PgBinding
namespace Cli

/-- An option or operand as given: its values, and how many times it was given. -/
structure Given where
  id : String
  values : List String := []
  count : Nat := 0
  deriving Repr, DecidableEq

/-- How an option was named when given. -/
inductive Named where
  | long
  | short
  | position
  deriving Repr, DecidableEq

/-- What values are collected for. -/
inductive Target where
  | option (a : Argument)
  | operand (o : Operand)
  deriving Repr

/-- The state of reading one level. -/
structure Reading where
  /-- What was given so far, in the order it was first given; a count moves to the end each time
  it is given again. -/
  given : List Given := []
  /-- Values collected for an option or operand and not yet checked. -/
  pending : Option (Target × Named × List String) := none
  /-- The option that waits for its value in the next word. -/
  awaiting : Option String := none
  /-- Whether the operand takes the next words. -/
  inOperand : Bool := false
  /-- How many operand values were taken. -/
  operands : Nat := 0
  /-- Whether `--` was read. -/
  afterSeparator : Bool := false

/-- What a command line parser reports instead of a reading. -/
inductive Problem where
  | invalidValue (arg value : String) (choices : List String)
  /-- An unknown option, with a similar option of the same level or of a subcommand (`sub
  --name`), and whether to suggest passing it after `--`. -/
  | unknownArgument (arg : String) (similar : Option String) (elsewhere : Option String)
      (asValue : Bool)
  | unrecognizedSubcommand (name : String)
  | similarSubcommands (name : String) (candidates : List String)
  | separatorBeforeSubcommand (name : String)
  | missingSubcommand (tool : String) (names : List String)
  | conflict (arg : String) (others : List String)
  | unexpectedValue (value arg : String)
  deriving Repr, DecidableEq

/-- A problem with the usage line of its level, and whether the level has `--help`. -/
structure ArgError where
  problem : Problem
  usage : Option String
  hint : Bool
  deriving Repr, DecidableEq

/-- Why reading stops early. -/
inductive Stop where
  /-- Help was asked for: shown on standard output, and the tool succeeds. -/
  | help (text : String)
  /-- Nothing was given to a tool that needs a subcommand: its help is shown on standard error,
  and the tool fails. -/
  | helpForNothing (text : String)
  | refuse (e : ArgError)
  deriving Repr, DecidableEq

/-- Reading a level, which may stop early; the state is kept when it stops. -/
abbrev ReadM := EStateM Stop Reading

/-- The names among `names` similar to `word`, least similar first. -/
def similarNames (word : String) (names : List String) : List String :=
  let scored := names.filterMap fun n =>
    let s := Text.jaro word.toList n.toList
    if s > 0.7 then some (s, n) else none
  (scored.mergeSort fun a b => decide (a.1 ≤ b.1)).map (·.2)

/-- A value in a list of values: quoted when it holds a blank. -/
def quoteValue (v : String) : String :=
  if v.any Char.isWhitespace then "\"" ++ v ++ "\"" else v

namespace Problem

/-- The first part of the message. -/
def headline : Problem → String
  | .invalidValue arg value _ =>
    if value.isEmpty then "a value is required for '" ++ arg ++ "' but none was supplied"
    else "invalid value '" ++ value ++ "' for '" ++ arg ++ "'"
  | .unknownArgument arg .. => "unexpected argument '" ++ arg ++ "' found"
  | .unrecognizedSubcommand name => "unrecognized subcommand '" ++ name ++ "'"
  | .similarSubcommands name _ => "unrecognized subcommand '" ++ name ++ "'"
  | .separatorBeforeSubcommand name => "unexpected argument '" ++ name ++ "' found"
  | .missingSubcommand tool _ => "'" ++ tool ++ "' requires a subcommand but one was not provided"
  | .conflict arg others =>
    if others = [arg] then "the argument '" ++ arg ++ "' cannot be used multiple times"
    else match others with
      | [other] => "the argument '" ++ arg ++ "' cannot be used with '" ++ other ++ "'"
      | [] => "the argument '" ++ arg ++ "' cannot be used with one or more of the other specified arguments"
      | _ => "the argument '" ++ arg ++ "' cannot be used with:" ++
        String.join (others.map ("\n  " ++ ·))
  | .unexpectedValue value arg =>
    "unexpected value '" ++ value ++ "' for '" ++ arg ++ "' found; no more were expected"

/-- The lists and tips after the headline. -/
def details : Problem → String
  | .invalidValue _ value choices =>
    let list := if choices.isEmpty then ""
      else "\n  [possible values: " ++ ", ".intercalate (choices.map quoteValue) ++ "]"
    let tip := match (similarNames value choices).getLast? with
      | some s => "\n\n  tip: a similar value exists: '" ++ s ++ "'"
      | none => ""
    list ++ tip
  | .unknownArgument arg similar elsewhere asValue =>
    let similarTip := match similar with
      | some s => "\n\n  tip: a similar argument exists: '" ++ s ++ "'"
      | none => ""
    let tips := (if asValue then ["to pass '" ++ arg ++ "' as a value, use '-- " ++ arg ++ "'"]
        else []) ++ (elsewhere.map (fun e => ["'" ++ e ++ "' exists"])).getD []
    let rest := if tips.isEmpty then ""
      else (if similar.isSome then "" else "\n") ++ String.join (tips.map ("\n  tip: " ++ ·))
    similarTip ++ rest
  | .similarSubcommands _ candidates =>
    "\n\n  tip: " ++ (match candidates with
      | [c] => "a similar subcommand exists: '" ++ c ++ "'"
      | _ => "some similar subcommands exist: " ++ ", ".intercalate (candidates.map fun c => "'" ++ c ++ "'"))
  | .separatorBeforeSubcommand name =>
    "\n\n  tip: subcommand '" ++ name ++ "' exists; to use it, remove the '--' before it"
  | .missingSubcommand _ names => "\n  [subcommands: " ++ ", ".intercalate names ++ "]"
  | _ => ""

end Problem

/-- The full message of a refused command line. -/
def ArgError.render (e : ArgError) : String :=
  "error: " ++ e.problem.headline ++ e.problem.details ++
    (match e.usage with
      | some u => "\n\nUsage: " ++ u
      | none => "") ++
    (if e.hint then "\n\nFor more information, try '--help'.\n" else "\n")

namespace Reading

/-- The ids of what was given, in order. -/
def usedIds (r : Reading) : List String := r.given.map (·.id)

/-- Whether something was given. -/
def has (r : Reading) (id : String) : Bool := r.given.any (·.id == id)

/-- Forgets something given. -/
def erase (r : Reading) (id : String) : Reading := { r with given := r.given.filter (·.id != id) }

/-- Records something as given, at the end, unless it is there already. -/
def ensure (r : Reading) (id : String) : Reading :=
  if r.has id then r else { r with given := r.given ++ [({ id } : Given)] }

/-- Adds values to something given. -/
def addValues (r : Reading) (id : String) (vs : List String) : Reading :=
  { r with given := r.given.map fun g => if g.id == id then { g with values := g.values ++ vs } else g }

end Reading

/-- Whether the level shows `--help` in its messages. -/
def Level.hint (l : Level) : Bool := l.options.any (·.action == .help)

/-- Refuses with a problem of a level. -/
def refuse {α : Type} (l : Level) (p : Problem) (usage : Option String) : ReadM α :=
  throw (.refuse ⟨p, usage, l.hint⟩)

/-- Checks a value of an option with choices, or a free value, which may not be empty. -/
def checkValue (l : Level) (display : String) (choices : List Choice) (v : String) : ReadM Unit :=
  if choices.isEmpty then
    if v.isEmpty then refuse l (.invalidValue display "" []) none else pure ()
  else if choices.any (·.name == v) then pure ()
  else refuse l (.invalidValue display v (choices.map (·.name))) none

/-- Takes what was collected for an option or operand. -/
def apply (l : Level) (t : Target) (named : Named) (values : List String) : ReadM Unit := do
  match t with
  | .option a =>
    match a.action with
    | .help => throw (.help (l.helpText (named != .short)))
    | .flag =>
      let r ← get
      if r.has a.id then
        set (r.erase a.id)
        refuse l (.conflict a.display [a.display]) (some (l.usage []))
      else set (r.ensure a.id |>.addValues a.id ["true"])
    | .count =>
      let r ← get
      let n := ((r.given.find? (·.id == a.id)).map (·.count)).getD 0
      let rest := r.erase a.id
      set { rest with given := rest.given ++ [({ id := a.id, count := min (n + 1) 255 } : Given)] }
    | .value _ choices =>
      if values.isEmpty then
        refuse l (.invalidValue a.display "" (choices.map (·.name))) none
      let r ← get
      if r.has a.id then
        set (r.erase a.id)
        refuse l (.conflict a.display [a.display]) (some (l.usage []))
      set (r.ensure a.id)
      for v in values do
        checkValue l a.display choices v
        modify (·.addValues a.id [v])
  | .operand o =>
    let r ← get
    if !o.many && r.has o.id then
      set (r.erase o.id)
      refuse l (.conflict (o.display false) [o.display false]) (some (l.usage []))
    set (r.ensure o.id)
    for v in values do
      if !o.many then checkValue l (o.display false) [] v
      modify (·.addValues o.id [v])

/-- Checks and takes what was collected and is still waiting. -/
def resolve (l : Level) : ReadM Unit := do
  match (← get).pending with
  | none => pure ()
  | some (t, named, values) =>
    modify fun r => { r with pending := none }
    apply l t named values

/-- Takes an option or operand given now, after what was waiting. -/
def react (l : Level) (t : Target) (named : Named) (values : List String) : ReadM Unit := do
  resolve l
  apply l t named values

/-- Runs a step whose failure is ignored, keeping what it did. -/
def ignoring (m : ReadM Unit) : ReadM Unit := tryCatch m fun _ => pure ()

/-- Starts collecting the value of an option named without one. -/
def await (l : Level) (a : Argument) (named : Named) : ReadM Unit := do
  resolve l
  modify fun r => { r with pending := some (.option a, named, []), awaiting := some a.id }

/-- Refuses an unknown long option, with a similar option of the level or, failing that, of the
subcommand named first among the remaining words. -/
def unknownLong {α : Type} (l : Level) (subs : List (String × Level)) (name : String)
    (rest : List String) : ReadM α := do
  ignoring (resolve l)
  let arg := "--" ++ name
  match (similarNames name l.longNames).getLast? with
  | some similar =>
    match l.findLong similar with
    | some a => modify (·.ensure a.id)
    | none => pure ()
    let r ← get
    refuse l (.unknownArgument arg (some ("--" ++ similar)) none false) (some (l.usage r.usedIds))
  | none =>
    let elsewhere := (subs.filterMap fun (sub, s) =>
        match (similarNames name s.longNames).getLast? with
        | some c => (rest.findIdx? (· == sub)).map fun k => (k, sub ++ " --" ++ c)
        | none => none).foldl (fun (best : Option (Nat × String)) c =>
          match best with
          | some b => if c.1 < b.1 then some c else some b
          | none => some c) none
    let r ← get
    let asValue := elsewhere.isNone && !r.afterSeparator && l.operand.isSome
    refuse l (.unknownArgument arg none (elsewhere.map (·.2)) asValue) (some (l.usage r.usedIds))

/-- Refuses a word that fits no operand. -/
def surplus {α : Type} (l : Level) (word : String) : ReadM α := do
  ignoring (resolve l)
  let r ← get
  if r.afterSeparator && l.commands.any (·.1 == word) then
    refuse l (.separatorBeforeSubcommand word) (some (l.usage []))
  let looksLikeOption := word.startsWith "-" && word != "-"
  let asValue := !r.afterSeparator && l.operand.isSome && looksLikeOption
  if !l.commands.isEmpty then
    let candidates := similarNames word (l.commands.map (·.1))
    if !candidates.isEmpty then
      refuse l (.similarSubcommands word candidates) (some (l.usage []))
    if l.operand.isNone then
      refuse l (.unrecognizedSubcommand word) (some (l.usage []))
  refuse l (.unknownArgument word none none asValue) (some (l.usage []))

/-- Takes a word as an operand value. -/
def operandWord (l : Level) (word : String) : ReadM Unit := do
  let r ← get
  match l.operand with
  | some o =>
    if o.many || r.operands = 0 then
      let same := match r.pending with
        | some (.operand p, _, _) => p.id == o.id
        | _ => false
      if !(same && o.many) then resolve l
      modify fun r =>
        let values := match r.pending with
          | some (.operand p, _, vs) => if p.id == o.id then vs else []
          | _ => []
        { r with pending := some (.operand o, .position, values ++ [word]), awaiting := none,
                 inOperand := o.many, operands := r.operands + 1 }
    else surplus l word
  | none => surplus l word

/-- What reading a cluster of short options ends with. -/
inductive ShortEnd where
  | done
  | unknown (flag : String)

/-- Reads a cluster of short options. -/
def readShorts (l : Level) : List Char → ReadM ShortEnd
  | [] => pure .done
  | c :: rest =>
    match l.findShort c with
    | none => pure (.unknown ("-" ++ String.singleton c))
    | some a =>
      if !a.takesValue then do
        react l (.option a) .short []
        modify fun r => { r with awaiting := none }
        readShorts l rest
      else
        let attached := String.ofList rest
        if attached.isEmpty then do
          await l a .short
          pure .done
        else do
          let v := if attached.startsWith "=" then String.ofList (attached.toList.drop 1) else attached
          react l (.option a) .short [v]
          modify fun r => { r with awaiting := none }
          pure .done

/-- Reads the words of a level until they run out or a subcommand is named; then the subcommand
and the words after it. A word that names a subcommand is the value of an option waiting for one.
`subs` are the subcommands and their levels, for suggestions. -/
def readLevel (l : Level) (subs : List (String × Level)) :
    List String → ReadM (Option (String × List String))
  | [] => pure none
  | word :: rest => do
    let r ← get
    if r.afterSeparator then
      operandWord l word
      readLevel l subs rest
    else if !r.inOperand && r.awaiting.isNone && l.commands.any (·.1 == word) then
      pure (some (word, rest))
    else if word == "--" then
      modify fun r => { r with afterSeparator := true, awaiting := none }
      readLevel l subs rest
    else if word.startsWith "--" then
      let body := String.ofList (word.toList.drop 2)
      let (name, value) := match body.splitOn "=" with
        | [n] => (n, none)
        | n :: vs => (n, some ("=".intercalate vs))
        | [] => (body, none)
      match l.findLong name with
      | none => unknownLong l subs name rest
      | some a =>
        if a.takesValue then
          match value with
          | some v =>
            react l (.option a) .long [v]
            modify fun r => { r with awaiting := none }
          | none => await l a .long
          readLevel l subs rest
        else match value with
          | some v =>
            let used := (← get).usedIds ++ [a.id]
            ignoring (resolve l)
            refuse l (.unexpectedValue v a.display) (some (l.usage used))
          | none =>
            react l (.option a) .long []
            modify fun r => { r with awaiting := none }
            readLevel l subs rest
    else if word.startsWith "-" && word.length > 1 then
      match ← readShorts l (word.toList.drop 1) with
      | .done => readLevel l subs rest
      | .unknown flag =>
        ignoring (resolve l)
        let asValue := !(← get).afterSeparator && l.operand.isSome
        refuse l (.unknownArgument flag none none asValue) (some (l.usage []))
    else match r.awaiting with
      | some _ =>
        modify fun r => { r with
          pending := r.pending.map (fun (t, n, vs) => (t, n, vs ++ [word])), awaiting := none }
        readLevel l subs rest
      | none =>
        operandWord l word
        readLevel l subs rest

/-- Refuses options given together that exclude each other. -/
def checkConflicts (l : Level) : ReadM Unit := do
  let r ← get
  for g in r.given do
    match l.find g.id with
    | none => pure ()
    | some a =>
      let others := r.given.filterMap fun o =>
        if o.id == g.id then none
        else match l.find o.id with
          | some b => if a.conflicts.contains b.id || b.conflicts.contains a.id then some b else none
          | none => none
      if !others.isEmpty then
        let ids := others.map (·.id)
        refuse l (.conflict a.display (others.map Argument.display).eraseDups)
          (some (l.usage (r.usedIds.filter (!ids.contains ·))))

/-- Ends a level: takes what is waiting, and checks what the level requires. `named` says whether
a subcommand was named. -/
def finishLevel (l : Level) (named : Bool) : ReadM Unit := do
  resolve l
  if !l.commands.isEmpty && !named then
    if (← get).given.isEmpty then throw (.helpForNothing (l.helpText false))
    refuse l (.missingSubcommand l.usageName (l.commands.map (·.1))) (some (l.usage []))
  checkConflicts l

/-- What a command line gave: the tool's options, and the subcommand with its options and
operand. -/
structure Matches where
  given : List Given
  command : String
  commandGiven : List Given
  deriving Repr

/-- The help asked for by the help subcommand: of the tool, or of the subcommand it names. -/
def Tool.helpFor (t : Tool) : Level → List String → Stop
  | l, [] => .help (l.helpText true)
  | l, name :: rest =>
    if l.commands.any (·.1 == name) then
      match t.findCommand name with
      | some c => t.helpFor (t.level c) rest
      | none => .refuse ⟨.unrecognizedSubcommand name, some (l.usage []), l.hint⟩
    else .refuse ⟨.unrecognizedSubcommand name, some (l.usage []), l.hint⟩

/-- Reads a command line (without the tool's own name). -/
def Tool.read (t : Tool) (words : List String) : Except Stop Matches :=
  let root := t.root
  let subs := t.allCommands.map fun c => (c.name, t.level c)
  match (readLevel root subs words).run {} with
  | .error s _ => .error s
  | .ok none r =>
    match (finishLevel root false).run r with
    | .error s _ => .error s
    | .ok _ _ => .error (.helpForNothing (root.helpText false))
  | .ok (some (name, rest)) r =>
    if name = helpCommandName then .error (t.helpFor root rest)
    else match t.findCommand name with
      | none => .error (.refuse ⟨.unrecognizedSubcommand name, some (root.usage []), root.hint⟩)
      | some c =>
        let level := t.level c
        match (do let _ ← readLevel level [] rest; finishLevel level true).run {} with
        | .error s _ => .error s
        | .ok _ sub =>
          match (finishLevel root true).run r with
          | .error s _ => .error s
          | .ok _ top => .ok ⟨top.given, name, sub.given⟩

namespace Matches

/-- What was given for a global option: at the deepest level where it was given. -/
def global (m : Matches) (id : String) : Option Given :=
  (m.commandGiven.find? (·.id == id)).or (m.given.find? (·.id == id))

/-- The value of a global option. -/
def globalValue (m : Matches) (id : String) : Option String :=
  (m.global id).bind (·.values.head?)

/-- The count of a global option. -/
def globalCount (m : Matches) (id : String) : Nat := ((m.global id).map (·.count)).getD 0

/-- The value of an option or operand of the subcommand. -/
def value (m : Matches) (id : String) : Option String :=
  (m.commandGiven.find? (·.id == id)).bind (·.values.head?)

/-- Whether a flag of the subcommand was given. -/
def flag (m : Matches) (id : String) : Bool := m.commandGiven.any (·.id == id)

end Matches

end Cli
end PgBinding
