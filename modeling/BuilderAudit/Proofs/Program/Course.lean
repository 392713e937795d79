import BuilderAudit.Program
import BuilderAudit.Proofs.CommandLine.Merge
import BuilderAudit.Proofs.Scan.Policy

/-!
# The course of a run of the program

The program first puts a report together, which leaves the tree as it is, and then gives it out. Everything that can
become of the first part is said once, in `Program.Composed`; the second part is described by what it comes to.

* `Task.exec` : what a part of the program comes to;
* `Program.compose` : all that is done before a report is given out (`perform_eq`, `composed`);
* `exec_publish`, `exec_perform` : how the text of a report is given out;
* `ScanReturns` : the scan that some arguments ask for (`scanReturns_unique`).
-/

namespace BuilderAudit.Program

open CommandLine

variable {α β : Type} {args : Args} {tree : FileTree} {log : List Log.Event}

/-! ## Parts of the program -/

/-- What a part of the program comes to, with the tree and the log that it leaves. -/
def Task.exec (part : Task α) (tree : FileTree) (log : List Log.Event) :
    Except ProgramError α × FileTree × List Log.Event := part.run.run (tree, log)

theorem Task.exec_get : Task.exec (get : Task (FileTree × List Log.Event)) tree log = (.ok (tree, log), tree, log) :=
  rfl

theorem Task.exec_set {tree' : FileTree} {log' : List Log.Event} :
    Task.exec (set (tree', log') : Task PUnit) tree log = (.ok ⟨⟩, tree', log') := rfl

theorem Task.exec_tell (events : List Log.Event) : Task.exec (tell events) tree log = (.ok (), tree, log ++ events) :=
  rfl

theorem Task.exec_bind (part : Task α) (next : α → Task β) (tree : FileTree) (log : List Log.Event) :
    Task.exec (part >>= next) tree log =
      match Task.exec part tree log with
      | (.ok a, tree, log) => Task.exec (next a) tree log
      | (.error e, tree, log) => (.error e, tree, log) := by
  rw [exec, ExceptT.run_bind, StateT.run_bind, ← exec]
  rcases exec part tree log with ⟨e | a, mid⟩
  · rfl
  · rfl

theorem Task.exec_bind_of_ok {part : Task α} {next : α → Task β} {a : α} {tree' : FileTree} {log' : List Log.Event}
    (h : Task.exec part tree log = (.ok a, tree', log')) :
    Task.exec (part >>= next) tree log = Task.exec (next a) tree' log' := by
  rw [exec_bind, h]

theorem Task.exec_bind_of_error {part : Task α} {next : α → Task β} {e : ProgramError} {tree' : FileTree}
    {log' : List Log.Event} (h : Task.exec part tree log = (.error e, tree', log')) :
    Task.exec (part >>= next) tree log = (.error e, tree', log') := by
  rw [exec_bind, h]

/-- What is told about the configuration file. -/
def toldBefore (args : Args) (tree : FileTree) : List Log.Event :=
  match args.config with
  | some path => if (ScanConfig.load tree path).isOk then [.configLoaded path] else []
  | none => []

theorem exec_configure (args : Args) (tree : FileTree) :
    Task.exec (configure args) tree [] =
      ((args.toConfig tree).mapError ProgramError.config, tree, toldBefore args tree) := by
  rw [configure, Task.exec_bind_of_ok Task.exec_get, toldBefore]
  cases args.config with
  | none =>
      dsimp only
      cases args.toConfig tree <;> rfl
  | some path =>
      dsimp only
      split
      · rw [Task.exec_bind_of_ok (Task.exec_tell _)]
        cases args.toConfig tree <;> rfl
      · cases args.toConfig tree <;> rfl

def scanned (s : Scanner) (tree : FileTree) (log : List Log.Event) : Except ScanError Report × RunState Unit :=
  (s.run Transformer.idle).exec ⟨tree, (), log, Report.start []⟩

theorem exec_scan {config : ScanConfig} {s : Scanner} (hs : Scanner.ofConfig config = .ok s) (tree : FileTree)
    (log : List Log.Event) :
    Task.exec (scan config) tree log =
      ((scanned s tree log).1.mapError ProgramError.scan, tree, (scanned s tree log).2.log) := by
  have hstill : (scanned s tree log).2.tree = tree := (still_run idle_keepsTree).tree_eq _
  have hrun : (s.run Transformer.idle).run.run ⟨tree, (), log, Report.start []⟩ = scanned s tree log := rfl
  simp only [scan, hs, pure_bind]
  rw [Task.exec_bind_of_ok Task.exec_get]
  dsimp only
  rw [hrun, Task.exec_bind_of_ok Task.exec_set, hstill]
  cases (scanned s tree log).1 <;> rfl

theorem exec_publish (args : Args) (text : String) (tree : FileTree) (log : List Log.Event) :
    Task.exec (publish args text) tree log =
      match args.outputFile with
      | none => (.ok text, tree, log)
      | some path =>
        match tree.write .user path (Utf8.encode text.toList) with
        | .ok after => (.ok "", after, log ++ [.reportWritten path args.format.name])
        | .error cause => (.error (.unwritable path cause), tree, log) := by
  unfold publish
  cases args.outputFile with
  | none => rfl
  | some path =>
      dsimp only
      rw [Task.exec_bind_of_ok Task.exec_get]
      dsimp only
      cases tree.write .user path (Utf8.encode text.toList) <;> rfl

/-! ## The report -/

/-- A configuration that the program accepts is accepted by the scanner. -/
theorem exists_ofConfig {config : ScanConfig} (h : args.toConfig tree = .ok config) :
    ∃ s, Scanner.ofConfig config = .ok s := by
  obtain ⟨base, -, h⟩ := bind_eq_ok_iff.mp h
  obtain ⟨_, hvalid, h⟩ := bind_eq_ok_iff.mp h
  cases h
  obtain ⟨pattern, hpattern⟩ := (ScanConfig.validate_eq_ok_iff.mp hvalid).pattern
  have hfile : (args.applyTo base).filePattern = .ok pattern := by rw [ScanConfig.filePattern, hpattern]
  refine ⟨⟨args.applyTo base, pattern⟩, ?_⟩
  rw [Scanner.ofConfig, hvalid, hfile]
  rfl

/-- All that is done before a report is given out. -/
def compose (args : Args) : Task String := do
  let config ← configure args
  let report ← scan config
  match report.render? args.format with
  | some text => return text
  | none => throw .unprintable

theorem perform_eq (args : Args) : perform args = compose args >>= publish args := by
  rw [perform, compose, bind_assoc]
  congr 1
  funext config
  rw [bind_assoc]
  congr 1
  funext report
  cases report.render? args.format <;> rfl

/-- What can become of a report before it is given out, and what has been told then. -/
inductive Composed (args : Args) (tree : FileTree) : Except ProgramError String → List Log.Event → Prop
  /-- There is no configuration. -/
  | misconfigured (cause : ConfigError) (config : args.toConfig tree = .error cause) :
    Composed args tree (.error (.config cause)) (toldBefore args tree)
  /-- The scan has failed. -/
  | stopped (config : ScanConfig) (s : Scanner) (e : ScanError) (final : RunState Unit)
    (hconfig : args.toConfig tree = .ok config) (hs : Scanner.ofConfig config = .ok s)
    (scan : scanned s tree (toldBefore args tree) = (.error e, final)) :
    Composed args tree (.error (.scan e)) final.log
  /-- The report cannot be printed in the form that is asked for. -/
  | unprintable (config : ScanConfig) (s : Scanner) (report : Report) (final : RunState Unit)
    (hconfig : args.toConfig tree = .ok config) (hs : Scanner.ofConfig config = .ok s)
    (scan : scanned s tree (toldBefore args tree) = (.ok report, final))
    (render : report.render? args.format = none) :
    Composed args tree (.error .unprintable) final.log
  | rendered (config : ScanConfig) (s : Scanner) (report : Report) (final : RunState Unit) (text : String)
    (hconfig : args.toConfig tree = .ok config) (hs : Scanner.ofConfig config = .ok s)
    (scan : scanned s tree (toldBefore args tree) = (.ok report, final))
    (render : report.render? args.format = some text) :
    Composed args tree (.ok text) final.log

/-- Putting a report together leaves the tree as it is. -/
theorem composed (args : Args) (tree : FileTree) :
    ∃ result log, Task.exec (compose args) tree [] = (result, tree, log) ∧ Composed args tree result log := by
  have hconfigure := exec_configure args tree
  cases hconfig : args.toConfig tree with
  | error cause =>
      rw [hconfig] at hconfigure
      exact ⟨_, _, Task.exec_bind_of_error hconfigure, .misconfigured cause hconfig⟩
  | ok config =>
      rw [hconfig] at hconfigure
      obtain ⟨s, hs⟩ := exists_ofConfig hconfig
      have hscan := exec_scan hs tree (toldBefore args tree)
      rw [compose, Task.exec_bind_of_ok hconfigure]
      rcases hrun : scanned s tree (toldBefore args tree) with ⟨e | report, final⟩
      · rw [hrun] at hscan
        exact ⟨_, _, Task.exec_bind_of_error hscan, .stopped config s e final hconfig hs hrun⟩
      · rw [hrun] at hscan
        rw [Task.exec_bind_of_ok hscan]
        cases hrender : report.render? args.format with
        | none => exact ⟨_, _, rfl, .unprintable config s report final hconfig hs hrun hrender⟩
        | some text => exact ⟨_, _, rfl, .rendered config s report final text hconfig hs hrun hrender⟩

/-- A report that has been put together is given out; otherwise the program ends. -/
theorem exec_perform {result : Except ProgramError String}
    (h : Task.exec (compose args) tree [] = (result, tree, log)) :
    Task.exec (perform args) tree [] =
      match result with
      | .ok text => Task.exec (publish args text) tree log
      | .error e => (.error e, tree, log) := by
  rw [perform_eq]
  cases result with
  | error e => exact Task.exec_bind_of_error h
  | ok text => exact Task.exec_bind_of_ok h

/-- What the program leaves behind for some arguments that can be read. -/
theorem execute_of_ok {argv : List Argument} (h : Args.ofArguments argv = .ok args) (setting : Option String)
    (tree : FileTree) :
    execute argv setting tree =
      match Task.exec (perform args) tree [] with
      | (.ok text, after, log) => (⟨0, text, none, Log.shown args.verbosity setting log⟩, after)
      | (.error e, after, log) => (e.outcome (Log.shown args.verbosity setting log), after) := by
  simp only [execute, h]
  rw [show (perform args).run.run (tree, []) = Task.exec (perform args) tree [] from rfl]
  rcases Task.exec (perform args) tree [] with ⟨e | text, after, log⟩ <;> rfl

/-! ## What the scan returns -/

/-- The scan that some arguments ask for returns a result. -/
def ScanReturns (args : Args) (tree : FileTree) (result : Except ScanError Report) : Prop :=
  ∃ config s, args.toConfig tree = .ok config ∧ Scanner.ofConfig config = .ok s ∧
    s.result Transformer.idle ⟨tree, (), [], Report.start []⟩ = result

theorem scanReturns_unique {result result' : Except ScanError Report} (h : ScanReturns args tree result)
    (h' : ScanReturns args tree result') : result = result' := by
  obtain ⟨config, s, hconfig, hs, hresult⟩ := h
  obtain ⟨config', s', hconfig', hs', hresult'⟩ := h'
  obtain rfl := Except.ok.inj (hconfig.symm.trans hconfig')
  obtain rfl := Except.ok.inj (hs.symm.trans hs')
  exact hresult.symm.trans hresult'

/-- What was told before makes no difference to what the scan returns. -/
theorem ScanReturns.of_scanned {config : ScanConfig} {s : Scanner} (hconfig : args.toConfig tree = .ok config)
    (hs : Scanner.ofConfig config = .ok s) {result : Except ScanError Report} {final : RunState Unit}
    (h : scanned s tree log = (result, final)) : ScanReturns args tree result := by
  have hidle : Transformer.Mirrors Eq Transformer.idle Transformer.idle := ⟨rfl, by
    rintro _ _ _ _ _ _ rfl
    exact ⟨rfl, rfl, rfl⟩⟩
  refine ⟨config, s, hconfig, hs, ?_⟩
  have hresult := (@mirrors_run _ _ _ s _ _ ⟨tree, (), [], Report.start []⟩ ⟨tree, (), log, Report.start []⟩
    hidle rfl rfl).1
  rw [Scanner.result, hresult]
  exact congrArg Prod.fst h

/-- A report that can be printed is printed if no file is named for it. -/
theorem execute_of_report {argv : List Argument} {report : Report} {text : String}
    (h : Args.ofArguments argv = .ok args) (houtput : args.outputFile = none)
    (hreturns : ScanReturns args tree (.ok report)) (hrender : report.render? args.format = some text)
    (setting : Option String) :
    ∃ log, execute argv setting tree = (⟨0, text, none, log⟩, tree) := by
  obtain ⟨result, log, hcompose, hcomposed⟩ := composed args tree
  rw [execute_of_ok h, exec_perform hcompose]
  cases hcomposed with
  | misconfigured cause hconfig =>
      obtain ⟨config, -, hconfig', -⟩ := hreturns
      cases hconfig.symm.trans hconfig'
  | stopped config s e final hconfig hs hscan =>
      cases scanReturns_unique hreturns (.of_scanned hconfig hs hscan)
  | unprintable config s report' final hconfig hs hscan hrender' =>
      obtain rfl := Except.ok.inj (scanReturns_unique hreturns (.of_scanned hconfig hs hscan))
      cases hrender.symm.trans hrender'
  | rendered config s report' final text' hconfig hs hscan hrender' =>
      obtain rfl := Except.ok.inj (scanReturns_unique hreturns (.of_scanned hconfig hs hscan))
      obtain rfl := Option.some.inj (hrender.symm.trans hrender')
      dsimp only
      rw [exec_publish, houtput]
      exact ⟨_, rfl⟩

end BuilderAudit.Program
