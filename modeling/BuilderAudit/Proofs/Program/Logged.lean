import BuilderAudit.Proofs.Program.OutputFile
import BuilderAudit.Proofs.Program.Verbosity
import BuilderAudit.Proofs.Scan.Logged

/-!
# The log of a whole run

At the highest verbosity everything is shown that is told. The numbers of the report can then be read off the log of the
program: the lines before and after the scan are no part of them.

* `Log.shown_trace` : what the highest verbosity shows;
* `accounts_toldBefore` : what is told before the scan;
* `execute_logged` : the log of a run that ends well (`Program.Logged`).
-/

namespace BuilderAudit

open Log

/-- The highest verbosity shows all events, if the environment gives no filter. -/
theorem Log.shown_trace (events : List Event) : shown .trace none events = events := by
  have hshown : Verbosity.trace ≠ .quiet := by decide
  rw [shown, if_neg hshown]
  refine List.filter_eq_self.mpr fun e _ => ?_
  rw [Filter.inForce, Option.bind_none, Option.getD_none, passes_upTo]
  generalize e.level = level
  cases level <;> rfl

namespace Program

open CommandLine

variable {argv : List Argument} {args : Args} {tree : FileTree}

/-- What the whole log of the program tells of a report and of its configuration. -/
structure Logged (config : ScanConfig) (report : Report) (log : List Event) : Prop where
  warnings : warnings log = report.filesSkipped
  found : tally "pattern matched" log = report.filesScanned + tally "skipping unreadable file" log
  marked : tally "deprecated builder" log = report.found.length
  transformed : tally "transform skipped" log = report.found.length
  unmarked : tally "no deprecated marker" log = report.filesScanned - report.found.length
  found_le : report.found.length ≤ report.filesScanned
  unwarned : config.onReadError = .fail → Log.warnings log = 0

/-- What is told about the configuration file is held against no report. -/
theorem accounts_toldBefore (args : Args) (tree : FileTree) (roots : List Path) :
    Accounts 0 (toldBefore args tree) (Report.start roots) := by
  have hnothing : Accounts 0 [] (Report.start roots) := ⟨rfl, rfl, rfl, rfl, rfl⟩
  unfold toldBefore
  cases args.config with
  | none => exact hnothing
  | some path =>
      dsimp only
      split
      · exact hnothing.aside nofun (show "loaded config file" ∉ accountMessages by decide)
      · exact hnothing

/-- **At the highest verbosity the log of a run that ends well accounts for its report.** -/
theorem execute_logged (h : Args.ofArguments argv = .ok args) (hverbosity : args.verbosity = .trace)
    (hcode : (execute argv none tree).1.code = 0) :
    ∃ config report, args.toConfig tree = .ok config ∧ ScanReturns args tree (.ok report) ∧
      Logged config report (execute argv none tree).1.log := by
  obtain ⟨result, log, hcompose, hcomposed⟩ := composed args tree
  rw [execute_of_ok h, exec_perform hcompose, hverbosity] at hcode ⊢
  cases hcomposed with
  | misconfigured cause hconfig => cases hcode
  | stopped config s e final hconfig hs hscan => cases (code_outcome _ _).symm.trans hcode
  | unprintable config s report final hconfig hs hscan hrender => cases hcode
  | rendered config s report final text hconfig hs hscan hrender =>
      have hconfigured : s.config = config := (Scanner.of_ofConfig_eq_ok hs).2.2
      have haccounts : Accounts 0 final.log report := accounts_run (accounts_toldBefore args tree _) hscan
      have hlogged : ∀ {log}, Accounts 0 log report → Logged config report log := fun hlog =>
        { warnings := hlog.warnings
          found := hlog.found
          marked := hlog.marked
          transformed := hlog.transformed
          unmarked := Nat.eq_sub_of_add_eq hlog.unmarked
          found_le := hlog.unmarked ▸ Nat.le_add_left _ _
          unwarned := fun hpolicy => hlog.warnings.trans (filesSkipped_eq_zero (hconfigured ▸ hpolicy) hscan) }
      refine ⟨config, report, hconfig, .of_scanned hconfig hs hscan, ?_⟩
      dsimp only at hcode ⊢
      rw [exec_publish] at hcode ⊢
      cases houtput : args.outputFile with
      | none =>
          dsimp only
          rw [shown_trace]
          exact hlogged haccounts
      | some path =>
          rw [houtput] at hcode
          dsimp only at hcode ⊢
          cases hwrite : tree.write .user path (Utf8.encode text.toList) with
          | error cause =>
              rw [hwrite] at hcode
              cases hcode
          | ok after =>
              dsimp only
              rw [shown_trace]
              exact hlogged (haccounts.aside nofun (show "report written" ∉ accountMessages by decide))

/-- The arguments of the sample scanner, with everything shown. -/
def sampleShown : List Argument := sampleFront ++ sampleBack ++ [.ofString "-vvv"]

theorem sampleShown_logged :
    Args.ofArguments sampleShown = .ok { sampleArgs with verbose := 3 } ∧
      Args.verbosity { sampleArgs with verbose := 3 } = .trace ∧ (execute sampleShown none sampleTree).1.code = 0 ∧
      Logged sampleScanner.config sampleReport (execute sampleShown none sampleTree).1.log := by
  have hargs : Args.ofArguments sampleShown = .ok { sampleArgs with verbose := 3 } := by decide +kernel
  have hconfig : Args.toConfig { sampleArgs with verbose := 3 } sampleTree = .ok sampleScanner.config := by
    decide +kernel
  have hreturns : ScanReturns { sampleArgs with verbose := 3 } sampleTree (.ok sampleReport) :=
    ⟨sampleScanner.config, sampleScanner, hconfig, ofConfig_sampleScanner, run_sampleScanner_idle⟩
  have hrender : sampleReport.render? sampleArgs.format = some "0 /w/s/Bl\n1 /w/s/a/Bx\n2 /w/s/a/Bx\n" := by
    decide +kernel
  obtain ⟨log, hexecute⟩ := execute_of_report hargs rfl hreturns hrender none
  have hcode : (execute sampleShown none sampleTree).1.code = 0 := by rw [hexecute]
  obtain ⟨config, report, hconfig', hreturns', hlogged⟩ := execute_logged hargs rfl hcode
  obtain rfl := Except.ok.inj (hconfig.symm.trans hconfig')
  obtain rfl := Except.ok.inj (scanReturns_unique hreturns hreturns')
  exact ⟨hargs, rfl, hcode, hlogged⟩

end Program

end BuilderAudit
