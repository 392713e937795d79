import BuilderAudit.CommandLine.Options
import BuilderAudit.CommandLine.Parser
import BuilderAudit.Scan.Run

/-!
# The program

From a command line to an exit code: the configuration is put together, the roots are scanned, and the report is printed
or written to a file. A missing root is told on the standard output, where the matches would be; every other error is
told on the standard error output.

* `Outcome` : what a run of the program leaves behind besides files;
* `Program.execute`, `Program.run` : a run of the program on a file tree.
-/

namespace BuilderAudit

/-- What a run of the program leaves behind besides files. -/
structure Outcome where
  code : Nat
  stdout : String
  /-- The text of the error on the standard error output, if there is one. -/
  error : Option String
  /-- The events that are shown. -/
  log : List Log.Event

inductive ProgramError
  | config (cause : ConfigError)
  /-- The configuration is refused by the scanner. -/
  | scanner (cause : ConfigError)
  | scan (cause : ScanError)
  /-- A path in the report is not valid UTF-8. -/
  | unprintable
  | unwritable (path : Path) (cause : FileError)
  deriving DecidableEq, Repr

namespace ProgramError

def message : ProgramError → String
  | config cause => "Invalid configuration: " ++ cause.message
  | scanner cause => cause.message
  | scan cause => cause.fullMessage
  | unprintable => "path contains invalid UTF-8 characters"
  | unwritable path cause => "Failed to write report: " ++ path.display ++ ": " ++ cause.message

def outcome : ProgramError → List Log.Event → Outcome
  | scan cause, log =>
    if cause.isRootError then ⟨1, cause.message ++ "\n", none, log⟩ else ⟨1, "", some (scan cause).message, log⟩
  | e, log => ⟨1, "", some e.message, log⟩

end ProgramError

namespace Program

open CommandLine

/-- A part of the program: it may fail, and it leaves a tree and a log behind in any case. -/
abbrev Task := ExceptT ProgramError (StateM (FileTree × List Log.Event))

def tell (events : List Log.Event) : Task Unit := modify fun (tree, log) => (tree, log ++ events)

def configure (args : Args) : Task ScanConfig := do
  let tree := (← get).1
  if let some path := args.config then
    if (ScanConfig.load tree path).isOk then tell [.configLoaded path]
  match args.toConfig tree with
  | .ok config => return config
  | .error cause => throw (.config cause)

def scan (config : ScanConfig) : Task Report := do
  let scanner ← match Scanner.ofConfig config with
    | .ok scanner => pure scanner
    | .error cause => throw (.scanner cause)
  let (tree, log) ← get
  let (result, final) := (scanner.run Transformer.idle).run.run ⟨tree, (), log, Report.start []⟩
  set (final.tree, final.log)
  match result with
  | .ok report => return report
  | .error cause => throw (.scan cause)

/-- Gives a report out: writes it to a file if one is named, and otherwise returns what is to be printed. -/
def publish (args : Args) (rendered : String) : Task String := do
  match args.outputFile with
  | none => return rendered
  | some path =>
    let (tree, log) ← get
    match tree.write .user path (Utf8.encode rendered.toList) with
    | .ok tree =>
      set (tree, log)
      tell [.reportWritten path args.format.name]
      return ""
    | .error cause => throw (.unwritable path cause)

def perform (args : Args) : Task String := do
  let config ← configure args
  let report ← scan config
  match report.render? args.format with
  | some rendered => publish args rendered
  | none => throw .unprintable

/-- A run of the program on a file tree. `logSetting` is the log filter of the environment, if there is one. -/
def execute (argv : List Argument) (logSetting : Option String) (tree : FileTree) : Outcome × FileTree :=
  match Args.ofArguments argv with
  | .error .help => (⟨0, helpText, none, []⟩, tree)
  | .error .version => (⟨0, versionText, none, []⟩, tree)
  | .error _ => (⟨2, "", none, []⟩, tree)
  | .ok args =>
    let (result, tree, events) := (perform args).run.run (tree, [])
    let log := Log.shown args.verbosity logSetting events
    match result with
    | .ok text => (⟨0, text, none, log⟩, tree)
    | .error e => (e.outcome log, tree)

/-- A run of the program whose arguments are texts. -/
def run (argv : List String) (logSetting : Option String) (tree : FileTree) : Outcome × FileTree :=
  execute (argv.map Argument.ofString) logSetting tree

end Program

end BuilderAudit
