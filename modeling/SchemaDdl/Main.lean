import SchemaDdl.Cli.Run

/-!
# The program

Reads the files that the arguments name, then prints what the run results in. Errors go to the
standard error stream.
-/

namespace SchemaDdl

/-- The variable of the environment that names a dialect. -/
def dialectVariable : String :=
  "OXIDE_DDL_DIALECT"

/-- Why the system did not hand over a file. -/
def readFailure : IO.Error → ReadFailure
  | .permissionDenied .. => .denied
  | .inappropriateType _ code _ => if code = 21 then .directory else .notDirectory
  | _ => .notFound

/-- The content of a file on disk. -/
def readFile (path : String) : IO (Except ReadFailure String) := do
  try
    return textOfBytes (← IO.FS.readBinFile path)
  catch e =>
    return .error (readFailure e)

/-- The files that a command names, with their contents. -/
def readFiles : Command → IO (List (String × Except ReadFailure String))
  | .compile options => options.files.mapM fun path => do return (path, ← readFile path)
  | _ => return []

end SchemaDdl

open SchemaDdl in
/-- Runs the program. -/
def main (args : List String) : IO UInt32 := do
  let environment ← IO.getEnv dialectVariable
  let contents ← match Command.parse environment args with
    | some command => readFiles command
    | none => pure []
  let files (path : String) := (contents.lookup path).getD (.error .notFound)
  let outcome := runProgram files environment args
  IO.print outcome.output
  if let some e := outcome.error then
    IO.eprintln ("Error: " ++ e.message)
  if outcome.exit = 2 then
    IO.eprint usage
  return outcome.exit
