import BuilderAudit.Source
import BuilderAudit.FileTree.Basic
import BuilderAudit.Pattern.FilePattern

/-!
# Configurations of a scan

* `ScanConfig` : what to scan, what to look for and what to do about unreadable entries; `ScanConfig.default`;
* `ConfigError` : why a configuration is refused, with its wording `ConfigError.message`;
* `ScanConfig.validate` : everything that can be checked without looking at the roots.
-/

namespace BuilderAudit

inductive ReadErrorPolicy
  | fail | skip
  deriving DecidableEq, Repr

structure ScanConfig where
  sourceRoots : List Path
  /-- Where a transformer would put its results; the scan itself never writes there. -/
  destinationBase : Path
  /-- The namespace that a transformer would use. -/
  builderNamespace : String
  /-- Which file names are looked at. -/
  pattern : String
  marker : String
  markerMatch : MarkerMatch
  onReadError : ReadErrorPolicy
  deriving DecidableEq, Repr

def defaultPattern : String := ".*Builder\\.java$"

namespace ScanConfig

def default : ScanConfig where
  sourceRoots := []
  destinationBase := Path.ofString "."
  builderNamespace := ""
  pattern := defaultPattern
  marker := defaultMarker
  markerMatch := .contains
  onReadError := .fail

def detector (config : ScanConfig) : Detector := ⟨config.marker, config.markerMatch⟩

end ScanConfig

/-- What is wrong with the text of a configuration file. -/
inductive FormatError
  /-- The text is not written in its format, or an enumeration value is badly shaped. -/
  | malformed
  | unknownField (name : String)
  | duplicateField (name : String)
  | unknownVariant (name : String)
  /-- A value has the wrong type. -/
  | invalidType
  /-- The name of an enumeration value comes with a payload. -/
  | invalidValue
  /-- A list of field values is too long. -/
  | invalidLength
  deriving DecidableEq, Repr

/-- The wording of a format error: its class in angle brackets, without a position. -/
def FormatError.message : FormatError → String
  | malformed => "<syntax error>"
  | unknownField name => "<unknown field `" ++ name ++ "`>"
  | duplicateField name => "<duplicate field `" ++ name ++ "`>"
  | unknownVariant name => "<unknown variant `" ++ name ++ "`>"
  | invalidType => "<invalid type>"
  | invalidValue => "<invalid value>"
  | invalidLength => "<invalid length>"

inductive ConfigError
  | unreadable (path : Path) (cause : FileError)
  | unparsable (path : Path) (cause : FormatError)
  | unsupportedFormat (extension : String)
  | invalidPattern (pattern : String) (cause : Pattern.Error)
  | emptyMarker
  | noSourceRoots
  deriving DecidableEq, Repr

/-- The wording of a configuration error. What is wrong with a pattern is not told; a word in angle brackets stands in
its place. -/
def ConfigError.message : ConfigError → String
  | unreadable path cause => "failed to read config file '" ++ path.display ++ "': " ++ cause.message
  | unparsable path cause => "failed to parse config file '" ++ path.display ++ "': " ++ cause.message
  | unsupportedFormat ext => "unsupported config format: " ++ ext ++ " (expected json or yaml)"
  | invalidPattern pattern _ => "invalid filename pattern '" ++ pattern ++ "': <regex error>"
  | emptyMarker => "deprecated marker must not be empty"
  | noSourceRoots => "no source roots configured"

def ScanConfig.filePattern (config : ScanConfig) : Except ConfigError FilePattern :=
  match FilePattern.ofText? config.pattern with
  | .ok p => .ok p
  | .error e => .error (.invalidPattern config.pattern e)

/-- Checks everything that can be checked without looking at the roots. -/
def ScanConfig.validate (config : ScanConfig) : Except ConfigError Unit :=
  if config.sourceRoots.isEmpty then .error .noSourceRoots
  else if config.marker.isEmpty then .error .emptyMarker
  else do
    let _ ← config.filePattern
    return ()

end BuilderAudit
