import BuilderAudit.Config.Basic
import BuilderAudit.Json.Basic

/-!
# The fields of a configuration

A configuration file names fields in snake case or in camel case. A configuration is written as an object with all
fields in order, each under its name in snake case. There is no JSON for a path that is not valid UTF-8.

* `Field.ofKey?` : the field that a key names, in either spelling;
* `ScanConfig.get`, `ScanConfig.set` : a value taken out of a configuration or put in;
* `ScanConfig.json?` : a whole configuration as JSON.
-/

namespace BuilderAudit

/-- The fields, in the order in which a list of values gives them. -/
inductive Field
  | sourceRoots | destinationBase | builderNamespace | pattern | marker | markerMatch | onReadError
  deriving DecidableEq, Repr

namespace Field

def all : List Field :=
  [sourceRoots, destinationBase, builderNamespace, pattern, marker, markerMatch, onReadError]

def name : Field → String
  | sourceRoots => "source_roots"
  | destinationBase => "destination_base"
  | builderNamespace => "builder_namespace"
  | pattern => "pattern"
  | marker => "marker"
  | markerMatch => "marker_match"
  | onReadError => "on_read_error"

def camelName : Field → String
  | sourceRoots => "sourceRoots"
  | destinationBase => "destinationBase"
  | builderNamespace => "builderNamespace"
  | pattern => "pattern"
  | marker => "marker"
  | markerMatch => "markerMatch"
  | onReadError => "onReadError"

/-- The field that a key names. -/
def ofKey? (key : String) : Option Field := all.find? fun f => key == f.name || key == f.camelName

abbrev Value : Field → Type
  | sourceRoots => List Path
  | destinationBase => Path
  | builderNamespace | pattern | marker => String
  | markerMatch => MarkerMatch
  | onReadError => ReadErrorPolicy

end Field

def ScanConfig.get (config : ScanConfig) : (f : Field) → f.Value
  | .sourceRoots => config.sourceRoots
  | .destinationBase => config.destinationBase
  | .builderNamespace => config.builderNamespace
  | .pattern => config.pattern
  | .marker => config.marker
  | .markerMatch => config.markerMatch
  | .onReadError => config.onReadError

def ScanConfig.set (config : ScanConfig) : (f : Field) → f.Value → ScanConfig
  | .sourceRoots, roots => { config with sourceRoots := roots }
  | .destinationBase, path => { config with destinationBase := path }
  | .builderNamespace, name => { config with builderNamespace := name }
  | .pattern, text => { config with pattern := text }
  | .marker, text => { config with marker := text }
  | .markerMatch, mode => { config with markerMatch := mode }
  | .onReadError, policy => { config with onReadError := policy }

def MarkerMatch.name : MarkerMatch → String
  | contains => "contains"
  | legacy => "legacy"

def MarkerMatch.ofName? (name : String) : Option MarkerMatch :=
  [contains, legacy].find? fun mode => mode.name == name

def ReadErrorPolicy.name : ReadErrorPolicy → String
  | fail => "fail"
  | skip => "skip"

def ReadErrorPolicy.ofName? (name : String) : Option ReadErrorPolicy :=
  [fail, skip].find? fun policy => policy.name == name

/-! ## Configurations as JSON -/

def Field.json? : (f : Field) → f.Value → Option Json
  | .sourceRoots, roots => (roots.mapM fun (root : Path) => root.text?.map Json.string).map Json.array
  | .destinationBase, path => path.text?.map Json.string
  | .builderNamespace, text | .pattern, text | .marker, text => some (.string text)
  | .markerMatch, mode => some (.string mode.name)
  | .onReadError, policy => some (.string policy.name)

def ScanConfig.json? (config : ScanConfig) : Option Json := do
  let members ← Field.all.mapM fun f => (f.json? (config.get f)).map (f.name, ·)
  return .object members

end BuilderAudit
