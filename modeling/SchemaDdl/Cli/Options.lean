import SchemaDdl.Dialect

/-!
# Command line

The arguments of the program. General options stand before the subcommand, and short ones may share
a hyphen. The options of `compile` may stand between its files. The value of an option is the next
argument or the rest of its own, after an equals sign if there is one, and no option may be given
twice. After two hyphens everything is a file. A request for help or for the version is answered
as soon as it is met, whatever comes after it.

## Main definitions

* `Command`: what the program is asked to do.
* `Command.parse`: the command that arguments stand for; none if they stand for none.
-/

namespace SchemaDdl

/-- How compiled statements are printed. -/
inductive OutputFormat where
  /-- A script with comment lines. -/
  | text
  /-- An array of statements. -/
  | json
  deriving DecidableEq, Repr

/-- The format that a word stands for. -/
def OutputFormat.ofName? : String → Option OutputFormat
  | "text" => some text
  | "json" => some json
  | _ => none

/-- What `compile` is asked to do. -/
structure CompileOptions where
  /-- The target dialect. -/
  dialect : Dialect
  /-- The format of the output. -/
  format : OutputFormat
  /-- Whether suppressed errors become guards in SQL. -/
  inlineGuards : Bool
  /-- The files to compile, at least one. -/
  files : List String
  deriving DecidableEq, Repr

/-- What the program is asked to do. -/
inductive Command where
  /-- Compile the units of files. -/
  | compile (options : CompileOptions)
  /-- List the dialects. -/
  | dialects
  /-- Explain the program. -/
  | help
  /-- Tell the version of the program. -/
  | version
  deriving DecidableEq, Repr

namespace Command

/-! ### Arguments of `compile` -/

/-- The options found so far. -/
structure Found where
  /-- The dialect, if it was given. -/
  dialect : Option Dialect := none
  /-- The format, if it was given. -/
  format : Option OutputFormat := none
  /-- Whether guards were asked for. -/
  inlineGuards : Bool := false
  /-- The files in reverse order. -/
  files : List String := []

/-- Sets the dialect, once. -/
def Found.setDialect (p : Found) (name : String) : Option Found :=
  match p.dialect, Dialect.ofName? name with
  | none, some dialect => some { p with dialect := some dialect }
  | _, _ => none

/-- Sets the format, once. -/
def Found.setFormat (p : Found) (name : String) : Option Found :=
  match p.format, OutputFormat.ofName? name with
  | none, some format => some { p with format := some format }
  | _, _ => none

/-- Asks for guards, once. -/
def Found.setGuards (p : Found) : Option Found :=
  if p.inlineGuards then none else some { p with inlineGuards := true }

/-- Adds a file, which has to have a name. -/
def Found.addFile (p : Found) (name : String) : Option Found :=
  if name.isEmpty then none else some { p with files := name :: p.files }

/-- Whether an argument starts with a hyphen and goes on, so that it cannot be a value. -/
def isOption (arg : String) : Bool :=
  match arg.toList with
  | '-' :: _ :: _ => true
  | _ => false

/-- The outcome of reading arguments: options, or a request for help. -/
inductive Reading where
  /-- The options of a complete list of arguments. -/
  | options (found : Found)
  /-- An explanation is asked for. -/
  | help

/-- The value that is attached to a short option, without the equals sign. -/
def attached : List Char → String
  | '=' :: value => String.ofList value
  | value => String.ofList value

/-- Reads the arguments of `compile`; `filesOnly` after two hyphens. -/
def readCompile (p : Found) (filesOnly : Bool) : List String → Option Reading
  | [] => some (.options p)
  | arg :: rest =>
    let file := do readCompile (← p.addFile arg) filesOnly rest
    let value (set : Found → String → Option Found) : Option Reading :=
      match rest with
      | [] => none
      | next :: rest => if isOption next then none else do readCompile (← set p next) false rest
    if filesOnly then file
    else match arg.toList with
      | ['-', '-'] => readCompile p true rest
      | '-' :: '-' :: name =>
        match name.span (· ≠ '=') with
        | (name, '=' :: text) =>
          match String.ofList name with
          | "dialect" => do readCompile (← p.setDialect (String.ofList text)) false rest
          | "format" => do readCompile (← p.setFormat (String.ofList text)) false rest
          | _ => none
        | (name, _) =>
          match String.ofList name with
          | "dialect" => value Found.setDialect
          | "format" => value Found.setFormat
          | "inline-guards" => do readCompile (← p.setGuards) false rest
          | "help" => some .help
          | _ => none
      | ['-', 'd'] => value Found.setDialect
      | ['-', 'f'] => value Found.setFormat
      | '-' :: 'd' :: text => do readCompile (← p.setDialect (attached text)) false rest
      | '-' :: 'f' :: text => do readCompile (← p.setFormat (attached text)) false rest
      | '-' :: 'h' :: _ => some .help
      | '-' :: _ :: _ => none
      | _ => file

/-- The command that the options of `compile` stand for. Without a dialect the one of the
environment counts, and without that the generic one. -/
def finishCompile (p : Found) (environment : Option String) : Option Command := do
  let dialect ← match p.dialect, environment with
    | some dialect, _ => some dialect
    | none, some name => Dialect.ofName? name
    | none, none => some .generic
  if p.files.isEmpty then none
  else return .compile {
    dialect
    format := p.format.getD .text
    inlineGuards := p.inlineGuards
    files := p.files.reverse }

/-! ### Arguments of the other subcommands -/

/-- The command for the arguments of `dialects`, which takes none. -/
def readDialects : List String → Option Command
  | [] => some .dialects
  | ["--"] => some .dialects
  | arg :: _ =>
    match arg.toList with
    | '-' :: 'h' :: _ => some .help
    | _ => if arg = "--help" then some .help else none

/-- The command for the arguments of `help`: at most the name of a subcommand. -/
def readHelp : List String → Option Command
  | [] => some .help
  | [topic] => if topic ∈ ["compile", "dialects", "help"] then some .help else none
  | _ => none

/-- The command of a subcommand with its arguments. -/
def readSubcommand (environment : Option String) : String → List String → Option Command
  | "compile", args =>
    match readCompile {} false args with
    | some (.options p) => finishCompile p environment
    | some .help => some .help
    | none => none
  | "dialects", args => readDialects args
  | "help", args => readHelp args
  | _, _ => none

/-! ### General options -/

/-- What a general option comes to. -/
inductive General where
  /-- The reading goes on; `verbose` tells whether that option was there already. -/
  | goOn (verbose : Bool)
  /-- The reading ends with a command. -/
  | done (command : Command)

/-- The option for details, which may be given once. -/
def setVerbose (verbose : Bool) : Option Bool :=
  if verbose then none else some true

/-- Reads the letters of short options that share one hyphen. What stands behind a letter that ends
the reading does not matter. -/
def readLetters (verbose : Bool) : List Char → Option General
  | [] => some (.goOn verbose)
  | 'v' :: letters => do readLetters (← setVerbose verbose) letters
  | 'h' :: _ => some (.done .help)
  | 'V' :: _ => some (.done .version)
  | _ => none

/-- Reads a long option without its hyphens. None of them takes a value. -/
def readLong (verbose : Bool) : String → Option General
  | "verbose" => (setVerbose verbose).map .goOn
  | "help" => some (.done .help)
  | "version" => some (.done .version)
  | _ => none

/-! ### All arguments -/

/-- The command that arguments stand for, given the dialect that the environment names. `verbose`
tells whether the option for details was there already. -/
def parseFrom (verbose : Bool) (environment : Option String) : List String → Option Command
  | [] => none
  | arg :: rest =>
    let continueWith (general : Option General) : Option Command :=
      match general with
      | some (.goOn verbose) => parseFrom verbose environment rest
      | some (.done command) => some command
      | none => none
    match arg.toList with
    | '-' :: '-' :: name => continueWith (readLong verbose (String.ofList name))
    | '-' :: letter :: letters => continueWith (readLetters verbose (letter :: letters))
    | _ => readSubcommand environment arg rest

/-- The command that arguments stand for, given the dialect that the environment names. -/
def parse (environment : Option String) (args : List String) : Option Command :=
  parseFrom false environment args

end Command

end SchemaDdl
