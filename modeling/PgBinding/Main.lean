import PgBinding.Cli.Run
import PgBinding.Toy.Engine
import Std.Time
/-!
The `pgquery` command.

This build carries its engine inside: the toy grammar's engine answers for whatever library path
is named, and every entry point is present. The files the command line names are read before the
run, so that the run itself sees the machine as plain data.
-/
open PgBinding Cli

/-- What a path names on the file system. -/
def probe (path : String) : IO Cli.Entry := do
  try
    return .file (← IO.FS.readBinFile path).toList
  catch
    | .inappropriateType .. => return .directory
    | _ => return .missing

/-- Runs the command and exits with its status. -/
def main (args : List String) : IO UInt32 := do
  let directory := (← IO.currentDir).toString
  let config := (match readCommandLine args with
    | .ok inv => inv.config
    | .error _ => none).getD (directory ++ "/" ++ configFileName)
  let file := match readCommandLine args with
    | .ok inv => inv.file
    | .error _ => none
  let named := config :: file.toList
  let entries ← named.mapM fun p => do pure (p, ← probe p)
  let input ← match file with
    | some _ => pure []
    | none => do pure (← (← IO.getStdin).readBinToEnd).toList
  let seconds := (← Std.Time.Timestamp.now).toSecondsSinceUnixEpoch.val.toNat
  let host : Host Toy.State :=
    { directory, input
      entry := fun p => (entries.lookup p).getD .missing
      libraryVariable := ← IO.getEnv Library.pathVariable
      image := fun _ => .exports Library.allSymbols
      engine := Toy.engine {}
      timestamp := Log.stamp seconds }
  let (out, _) := host.run args {}
  IO.print out.stdout
  (← IO.getStderr).putStr out.stderr
  return out.status.toUInt32
