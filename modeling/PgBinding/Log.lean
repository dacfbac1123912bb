/-!
Diagnostic records: what the layer reports as it works, at a level a logger filters by, under
the name of the part that reports it.
-/
namespace PgBinding
namespace Log

/-- How important a diagnostic is, from the most to the least. -/
inductive Level where
  | error
  | warn
  | info
  | debug
  | trace
  deriving Repr, DecidableEq

/-- The rank of a level: a logger set to a level shows every record of rank at most its own. -/
def Level.rank : Level → Nat
  | .error => 1
  | .warn => 2
  | .info => 3
  | .debug => 4
  | .trace => 5

/-- The level's name as a logger prints it. -/
def Level.name : Level → String
  | .error => "ERROR"
  | .warn => "WARN"
  | .info => "INFO"
  | .debug => "DEBUG"
  | .trace => "TRACE"

/-- One diagnostic: its level, the part that reported it, and the message. -/
structure Record where
  level : Level
  target : String
  message : String
  deriving Repr, DecidableEq

/-- A number with at least two digits. -/
def twoDigits (n : Nat) : String := if n < 10 then "0" ++ toString n else toString n

/-- The calendar date of a day counted from 1970-01-01: year, month and day. -/
def civilDate (days : Nat) : Nat × Nat × Nat :=
  let z := days + 719468
  let era := z / 146097
  let doe := z - era * 146097
  let yoe := (doe - doe / 1460 + doe / 36524 - doe / 146096) / 365
  let doy := doe - (365 * yoe + yoe / 4 - yoe / 100)
  let mp := (5 * doy + 2) / 153
  let d := doy - (153 * mp + 2) / 5 + 1
  let m := if mp < 10 then mp + 3 else mp - 9
  (yoe + era * 400 + (if m ≤ 2 then 1 else 0), m, d)

/-- The time stamp of a log line for a time in seconds since 1970-01-01 00:00 UTC:
`YYYY-MM-DDTHH:MM:SSZ`. -/
def stamp (seconds : Nat) : String :=
  let (y, m, d) := civilDate (seconds / 86400)
  let t := seconds % 86400
  toString y ++ "-" ++ twoDigits m ++ "-" ++ twoDigits d ++ "T" ++ twoDigits (t / 3600) ++ ":" ++
    twoDigits (t / 60 % 60) ++ ":" ++ twoDigits (t % 60) ++ "Z"

example : stamp 0 = "1970-01-01T00:00:00Z" := by decide
example : stamp 951782400 = "2000-02-29T00:00:00Z" := by decide

end Log
end PgBinding
