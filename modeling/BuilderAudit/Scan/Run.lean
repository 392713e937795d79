import BuilderAudit.Config.Basic
import BuilderAudit.Discovery
import BuilderAudit.FileTree.Edit
import BuilderAudit.Log.Event
import BuilderAudit.Report

/-!
# Scans

A scan goes through the roots of a configuration one after the other. All roots are checked first. Under each root the
candidate files are discovered and then read in order; each one that carries the marker becomes a match, is handed to
the transformer and is then reported. Matches are numbered across all roots.

* `Transformer` : what every match is handed to. It may change files, keep a state of its own, and refuse the match;
  `Transformer.idle` leaves everything as it is;
* `Scanner` : a configuration that has been checked, with its pattern;
* `RunState` : what a run works on; it stays as it is when an error stops the run;
* `Scanner.run` : the whole run.
-/

namespace BuilderAudit

/-! ## Transformers -/

/-- Where a transformer would put its results. -/
structure Destination where
  base : Path
  builderNamespace : String
  deriving DecidableEq, Repr

def ScanConfig.destination (config : ScanConfig) : Destination := ⟨config.destinationBase, config.builderNamespace⟩

/-- What has become of a match that was handed to a transformer with a state of type `σ`. -/
structure Handover (σ : Type) where
  tree : FileTree
  state : σ
  events : List Log.Event
  /-- Why the match is refused, if it is. -/
  refusal : Option String

structure Transformer (σ : Type) where
  name : String
  transform : SourceFile → Match → Destination → FileTree → σ → Handover σ

/-- The transformer that only tells what it was handed. -/
def Transformer.idle : Transformer Unit where
  name := "noop"
  transform source found destination tree _ :=
    ⟨tree, (), [.transformSkipped source.path found.index destination.base destination.builderNamespace], none⟩

/-! ## Runs -/

structure Scanner where
  config : ScanConfig
  pattern : FilePattern
  deriving DecidableEq, Repr

def Scanner.ofConfig (config : ScanConfig) : Except ConfigError Scanner := do
  config.validate
  return ⟨config, ← config.filePattern⟩

structure RunState (σ : Type) where
  tree : FileTree
  /-- The state of the transformer. -/
  transformer : σ
  log : List Log.Event
  report : Report

/-- A part of a run: it changes the state and may fail. -/
abbrev Run (σ : Type) := ExceptT ScanError (StateM (RunState σ))

namespace Run

variable {σ : Type}

def tell (events : List Log.Event) : Run σ Unit := modify fun s => { s with log := s.log ++ events }

def countSkipped (n : Nat) : Run σ Unit :=
  modify fun s => { s with report := { s.report with filesSkipped := s.report.filesSkipped + n } }

def countScanned : Run σ Unit :=
  modify fun s => { s with report := { s.report with filesScanned := s.report.filesScanned + 1 } }

def addMatch (found : Match) : Run σ Unit :=
  modify fun s => { s with report := { s.report with found := s.report.found ++ [found] } }

def handOver (t : Transformer σ) (source : SourceFile) (found : Match) (destination : Destination) : Run σ Unit := do
  let s ← get
  let outcome := t.transform source found destination s.tree s.transformer
  set { s with tree := outcome.tree, transformer := outcome.state, log := s.log ++ outcome.events }
  match outcome.refusal with
  | none => return ()
  | some reason => throw (.refused t.name found.path reason)

end Run

def SourceFile.load (tree : FileTree) (path : Path) : Except FileError SourceFile :=
  (tree.readText path).map (SourceFile.ofContent path)

namespace Scanner

variable {σ : Type}

/-- The match that a source file makes as the one with a given index. -/
def matchOf (s : Scanner) (index : Nat) (source : SourceFile) : Match :=
  ⟨index, source.path, source.packageName?, s.config.detector.markerLines source⟩

def scanSource (s : Scanner) (t : Transformer σ) (source : SourceFile) : Run σ Unit := do
  Run.countScanned
  if s.config.detector.isDeprecated source then
    let found := s.matchOf (← get).report.found.length source
    Run.tell [.marked found.index found.path t.name]
    Run.handOver t source found s.config.destination
    Run.addMatch found
  else
    Run.tell [.unmarked source.path]

def scanFile (s : Scanner) (t : Transformer σ) (path : Path) : Run σ Unit := do
  match SourceFile.load (← get).tree path with
  | .ok source => s.scanSource t source
  | .error cause =>
    if s.config.onReadError = .skip then
      Run.tell [.fileSkipped path cause]
      Run.countSkipped 1
    else
      throw (.unreadableFile path cause)

def scanRoot (s : Scanner) (t : Transformer σ) (root : Path) : Run σ Unit := do
  Run.tell [.rootStarted root]
  let (found, events) := discover (← get).tree root s.pattern s.config.onReadError
  Run.tell events
  let found ← found
  Run.countSkipped found.skipped
  found.files.forM (s.scanFile t)

def run (s : Scanner) (t : Transformer σ) : Run σ Report := do
  let roots := s.config.sourceRoots
  modify fun state => { state with report := Report.start roots }
  let tree := (← get).tree
  roots.forM fun root => (checkRoot tree root : Except ScanError Unit)
  roots.forM (s.scanRoot t)
  let report := (← get).report
  Run.tell [.scanComplete roots.length report.filesScanned report.filesSkipped report.found.length]
  return report

end Scanner

end BuilderAudit
