import BuilderAudit.Config.File
import BuilderAudit.Log.Filter
import BuilderAudit.Report

/-!
# Command line options

* `Argument` : what stands between the blanks of a command line;
* `Setting` : the options that take a value;
* `Flag` : the options that take none;
* `Switch` : either, with its names and its line in the help text;
* `Args` : what a command line says;
* `Args.toConfig` : the configuration that it asks for. Its own roots come after those of the configuration file, its
  other options take the place of what the file says, and the result is checked as a whole;
* `helpText`, `versionText`.
-/

namespace BuilderAudit.CommandLine

/-- An argument: some bytes, which need not be valid UTF-8. -/
abbrev Argument := List UInt8

def Argument.ofString (text : String) : Argument := Utf8.encode text.toList

/-- The options that take a value. -/
inductive Setting
  | config | pattern | marker | destination | builderNamespace | format | outputFile
  deriving DecidableEq, Repr

/-- The options that take no value. -/
inductive Flag
  | legacyMarkerCheck | skipUnreadable | verbose | quiet | help | version
  deriving DecidableEq, Repr

inductive Switch
  | setting (s : Setting)
  | flag (f : Flag)
  deriving DecidableEq, Repr

/-- All options, in the order of the help text. -/
def Switch.all : List Switch :=
  [.setting .config, .setting .pattern, .setting .marker, .setting .destination, .setting .builderNamespace,
    .setting .format, .setting .outputFile, .flag .legacyMarkerCheck, .flag .skipUnreadable, .flag .verbose,
    .flag .quiet, .flag .help, .flag .version]

def Switch.longName : Switch → String
  | setting .config => "config"
  | setting .pattern => "pattern"
  | setting .marker => "marker"
  | setting .destination => "destination"
  | setting .builderNamespace => "namespace"
  | setting .format => "format"
  | setting .outputFile => "output-file"
  | flag .legacyMarkerCheck => "legacy-marker-check"
  | flag .skipUnreadable => "skip-unreadable"
  | flag .verbose => "verbose"
  | flag .quiet => "quiet"
  | flag .help => "help"
  | flag .version => "version"

def Switch.letter? : Switch → Option Char
  | setting .config => some 'c'
  | setting .pattern => some 'p'
  | setting .marker => some 'm'
  | setting .destination | setting .builderNamespace => none
  | setting .format => some 'f'
  | setting .outputFile => some 'O'
  | flag .legacyMarkerCheck | flag .skipUnreadable => none
  | flag .verbose => some 'v'
  | flag .quiet => some 'q'
  | flag .help => some 'h'
  | flag .version => some 'V'

/-- What stands behind the long name of an option in the help text. -/
def Switch.argument : Switch → String
  | setting .config | setting .outputFile => " <FILE>"
  | setting .pattern => " <REGEX>"
  | setting .marker => " <TEXT>"
  | setting .destination => " <PATH>"
  | setting .builderNamespace => " <NAMESPACE>"
  | setting .format => " <FORMAT>"
  | flag .verbose => "..."
  | flag _ => ""

def Switch.about : Switch → String
  | setting .config => "Configuration file (YAML or JSON)"
  | setting .pattern => "Filename pattern, anchored at the start of the name"
  | setting .marker => "Deprecated marker to search for"
  | setting .destination => "Destination base for transformed builders"
  | setting .builderNamespace => "Namespace for transformed builders"
  | setting .format => "Output format (text, json) [default: text] [possible values: text, json]"
  | setting .outputFile => "Output file path (prints to stdout if not specified)"
  | flag .legacyMarkerCheck => "Treat every line not starting with the marker as a hit (old script behaviour)"
  | flag .skipUnreadable => "Warn about unreadable files and directories and continue instead of failing"
  | flag .verbose => "Increase verbosity (-v info, -vv debug, -vvv trace)"
  | flag .quiet => "Suppress all output except errors"
  | flag .help => "Print help"
  | flag .version => "Print version"

def Switch.ofLongName? (name : Argument) : Option Switch := all.find? fun s => Argument.ofString s.longName == name

/-- The letter of an option as it stands in an argument. -/
def Switch.byte? (s : Switch) : Option UInt8 := s.letter?.map Char.toUInt8

def Switch.ofByte? (b : UInt8) : Option Switch := all.find? fun s => s.byte? == some b

/-- The names of an option in the help text. -/
def Switch.heading (s : Switch) : String :=
  let start := match s.letter? with
    | some c => String.ofList ['-', c, ',', ' ']
    | none => "    "
  start ++ "--" ++ s.longName ++ s.argument

def headingWidth : Nat := (Switch.all.map fun s => s.heading.length).foldl max 0

def Switch.helpLine (s : Switch) : String :=
  "  " ++ s.heading ++ String.ofList (List.replicate (headingWidth - s.heading.length + 2) ' ') ++ s.about ++ "\n"

def helpText : String :=
  "Find generated *Builder sources that still contain deprecated methods\n\n" ++
    "Usage: builder-audit [OPTIONS] [ROOT]...\n\n" ++
    "Arguments:\n  [ROOT]...  Source roots to scan recursively (added after roots from --config)\n\n" ++
    "Options:\n" ++ String.join (Switch.all.map Switch.helpLine)

def versionText : String := "builder-audit 0.1.0\n"

/-- What a command line says. -/
structure Args where
  roots : List Path
  config : Option Path
  pattern : Option String
  marker : Option String
  destination : Option Path
  builderNamespace : Option String
  format : ReportFormat
  outputFile : Option Path
  legacyMarkerCheck : Bool
  skipUnreadable : Bool
  /-- How often more output is asked for. -/
  verbose : Nat
  quiet : Bool
  deriving DecidableEq, Repr

def Args.empty : Args := ⟨[], none, none, none, none, none, .text, none, false, false, 0, false⟩

def Args.verbosity (a : Args) : Log.Verbosity := Log.Verbosity.ofFlags a.verbose a.quiet

/-! ## The configuration that a command line asks for -/

namespace Args

/-- A configuration with the options of a command line put over it. -/
def applyTo (a : Args) (config : ScanConfig) : ScanConfig where
  sourceRoots := config.sourceRoots ++ a.roots
  destinationBase := a.destination.getD config.destinationBase
  builderNamespace := a.builderNamespace.getD config.builderNamespace
  pattern := a.pattern.getD config.pattern
  marker := a.marker.getD config.marker
  markerMatch := if a.legacyMarkerCheck then .legacy else config.markerMatch
  onReadError := if a.skipUnreadable then .skip else config.onReadError

/-- The configuration that the options are put over. -/
def base (a : Args) (tree : FileTree) : Except ConfigError ScanConfig :=
  match a.config with
  | some path => ScanConfig.load tree path
  | none => .ok ScanConfig.default

def toConfig (a : Args) (tree : FileTree) : Except ConfigError ScanConfig := do
  let config := a.applyTo (← a.base tree)
  config.validate
  return config

end Args

end BuilderAudit.CommandLine
