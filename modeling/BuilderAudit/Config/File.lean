import BuilderAudit.Config.FromJson
import BuilderAudit.Config.FromYaml
import BuilderAudit.FileTree.Access

/-!
# Configuration files

The extension of a configuration file names its format, in upper or lower case. A file is read before its extension is
looked at.
-/

namespace BuilderAudit

inductive ConfigFormat
  | json | yaml
  deriving DecidableEq, Repr

/-- The format that an extension in lower case names. -/
def ConfigFormat.ofExtension? (ext : String) : Option ConfigFormat :=
  if ext = "json" then some .json
  else if ext = "yaml" || ext = "yml" then some .yaml
  else none

namespace ScanConfig

def ofText? (text : List Char) : ConfigFormat → Except FormatError ScanConfig
  | .json => ofJson? text
  | .yaml => ofYaml? text

def ofContent (path : Path) (content : List Char) : Except ConfigError ScanConfig :=
  match ConfigFormat.ofExtension? path.extension with
  | none => .error (.unsupportedFormat path.extension)
  | some format =>
    match ofText? content format with
    | .ok config => .ok config
    | .error cause => .error (.unparsable path cause)

def load (tree : FileTree) (path : Path) : Except ConfigError ScanConfig :=
  match tree.readText path with
  | .error cause => .error (.unreadable path cause)
  | .ok content => ofContent path content

end ScanConfig

end BuilderAudit
