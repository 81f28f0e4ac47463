import SchemaDdl.Cli.Options
import SchemaDdl.Cli.Report
import SchemaDdl.Codec.MigrationUnit
import SchemaDdl.Compile
import SchemaDdl.Guard

/-!
# Running the program

What the program prints and how it exits, as a function of its arguments, its environment and the
files. Files are compiled one after the other, each loaded before its units are compiled; the first
failure is reported and nothing is printed.

## Main definitions

* `compileFiles`: the statements of files.
* `Command.run`: what a command results in.
* `runProgram`: what arguments result in.
-/

namespace SchemaDdl

/-! ### Files -/

/-- The text of a file, which has to be UTF-8. -/
def textOfBytes (bytes : ByteArray) : Except ReadFailure String :=
  match String.fromUTF8? bytes with
  | some text => .ok text
  | none => .error .notText

/-- The contents of files by name. -/
abbrev Files := String → Except ReadFailure String

/-- The units of a file. -/
def loadUnits (files : Files) (path : String) : Except Error (List MigrationUnit) :=
  match files path with
  | .error failure => .error (.unreadable failure)
  | .ok text =>
    match MigrationUnit.parse text with
    | .error fault => .error (.notUnits fault)
    | .ok units => .ok units

/-- The statements of units in order, or the first error. -/
def compileUnits (d : Dialect) : List MigrationUnit → Except Error (List Statement)
  | [] => .ok []
  | u :: units =>
    match u.compile d with
    | .error e => .error e
    | .ok statements =>
      match compileUnits d units with
      | .error e => .error e
      | .ok rest => .ok (statements ++ rest)

/-- The statements of files in order, or the first error. -/
def compileFiles (files : Files) (d : Dialect) : List String → Except Error (List Statement)
  | [] => .ok []
  | path :: paths =>
    match loadUnits files path with
    | .error e => .error e
    | .ok units =>
      match compileUnits d units with
      | .error e => .error e
      | .ok statements =>
        match compileFiles files d paths with
        | .error e => .error e
        | .ok rest => .ok (statements ++ rest)

/-! ### Commands -/

/-- What a run results in. -/
structure Outcome where
  /-- The exit code. -/
  exit : UInt32
  /-- What is printed. -/
  output : String := ""
  /-- The error that is reported. -/
  error : Option Error := none

/-- Statements in an output format. -/
def OutputFormat.render : OutputFormat → List Statement → String
  | text => scriptText
  | json => statementsJson

/-- The explanation of the program. -/
def usage : String :=
  "usage: [-v] compile [-d DIALECT] [-f text|json] [--inline-guards] FILE...\n" ++
    "       [-v] dialects\n" ++
    "       [-v] help [COMMAND]\n" ++
    "       -h | -V\n"

/-- The name of the program and its version. -/
def versionText : String :=
  "oxide-ddl 0.1.0\n"

/-- What a command results in. -/
def Command.run (files : Files) : Command → Outcome
  | .help => { exit := 0, output := usage }
  | .version => { exit := 0, output := versionText }
  | .dialects => { exit := 0, output := dialectTable }
  | .compile options =>
    match compileFiles files options.dialect options.files with
    | .error e => { exit := 1, error := some e }
    | .ok statements =>
      let statements :=
        if options.inlineGuards then statements.map (·.guarded options.dialect) else statements
      { exit := 0, output := options.format.render statements }

/-- What arguments result in, given the files and the dialect that the environment names.
Arguments that stand for no command are refused with exit code 2. -/
def runProgram (files : Files) (environment : Option String) (args : List String) : Outcome :=
  match Command.parse environment args with
  | none => { exit := 2 }
  | some command => command.run files

end SchemaDdl
