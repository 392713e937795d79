import BuilderAudit.Proofs.Program.Course

/-!
# How a run of the program ends

Arguments that can be read lead to one of three endings. Either the report is given out as a whole, or a root leads to
no directory and is told of where the report would be, or an error is told on the standard error output and nothing is
printed.

* `ProgramError.startsAsConfig_iff` : errors of the configuration are told apart by how they start;
* `Program.EndsWell`, `Program.EndsAtRoot`, `Program.EndsWithError` : the three endings;
* `execute_ends` : every run of the program comes to exactly one of them (`Program.Ends`).
-/

namespace BuilderAudit

/-! ## The wording of errors -/

/-- A text that starts as the errors of the configuration do. -/
def StartsAsConfig (text : String) : Prop := ∃ rest, text = "Invalid configuration: " ++ rest

/-- A text that starts with another letter. -/
def StartsOtherwise (text : String) : Prop := ∃ c, text.toList.head? = some c ∧ c ≠ 'I'

theorem StartsOtherwise.append {text : String} (h : StartsOtherwise text) (more : String) :
    StartsOtherwise (text ++ more) := by
  obtain ⟨c, hhead, hc⟩ := h
  refine ⟨c, ?_, hc⟩
  rw [String.toList_append, List.head?_append, hhead]
  rfl

theorem StartsOtherwise.not_startsAsConfig {text : String} (h : StartsOtherwise text) : ¬ StartsAsConfig text := by
  rintro ⟨rest, rfl⟩
  obtain ⟨c, hhead, hc⟩ := h
  rw [String.toList_append] at hhead
  exact hc (Option.some.inj hhead).symm

theorem ConfigError.startsOtherwise (e : ConfigError) : StartsOtherwise e.message := by
  cases e with
  | unreadable => exact (StartsOtherwise.append ⟨'f', rfl, by decide⟩ _).append _ |>.append _
  | unparsable => exact (StartsOtherwise.append ⟨'f', rfl, by decide⟩ _).append _ |>.append _
  | unsupportedFormat => exact (StartsOtherwise.append ⟨'u', rfl, by decide⟩ _).append _
  | invalidPattern => exact (StartsOtherwise.append ⟨'i', rfl, by decide⟩ _).append _
  | emptyMarker => exact ⟨'d', rfl, by decide⟩
  | noSourceRoots => exact ⟨'n', rfl, by decide⟩

theorem ScanError.startsOtherwise (e : ScanError) : StartsOtherwise e.fullMessage := by
  cases e with
  | rootNotFound => exact (StartsOtherwise.append ⟨'s', rfl, by decide⟩ _).append _
  | rootNotDirectory => exact (StartsOtherwise.append ⟨'s', rfl, by decide⟩ _).append _
  | unreadableFile => exact ((StartsOtherwise.append ⟨'f', rfl, by decide⟩ _).append _).append _ |>.append _
  | unreadableDirectory => exact (StartsOtherwise.append ⟨'f', rfl, by decide⟩ _).append _
  | refused => exact ((StartsOtherwise.append ⟨'t', rfl, by decide⟩ _).append _ |>.append _).append _ |>.append _

/-- Errors of the configuration are told apart by how they start. -/
theorem ProgramError.startsAsConfig_iff (e : ProgramError) : StartsAsConfig e.message ↔ ∃ cause, e = .config cause := by
  constructor
  · intro h
    cases e with
    | config cause => exact ⟨cause, rfl⟩
    | scanner cause => exact absurd h cause.startsOtherwise.not_startsAsConfig
    | scan cause => exact absurd h cause.startsOtherwise.not_startsAsConfig
    | unprintable => exact absurd h (StartsOtherwise.not_startsAsConfig ⟨'p', rfl, by decide⟩)
    | unwritable path cause =>
        have hstart : StartsOtherwise (message (unwritable path cause)) :=
          (StartsOtherwise.append ⟨'F', rfl, by decide⟩ _).append _ |>.append _
        exact absurd h hstart.not_startsAsConfig
  · rintro ⟨cause, rfl⟩
    exact ⟨cause.message, rfl⟩

namespace Program

open CommandLine

variable {args : Args} {tree : FileTree} {outcome : Outcome} {log : List Log.Event}

/-! ## The endings -/

/-- The report is printed as a whole, or nothing is printed if a file is named for it. -/
structure EndsWell (args : Args) (tree : FileTree) (outcome : Outcome) : Prop where
  code : outcome.code = 0
  error : outcome.error = none
  stdout : ∃ report text, ScanReturns args tree (.ok report) ∧ report.render? args.format = some text ∧
    outcome.stdout = if args.outputFile.isSome then "" else text

/-- The message of a root error is printed. -/
structure EndsAtRoot (args : Args) (tree : FileTree) (outcome : Outcome) : Prop where
  code : outcome.code = 1
  error : outcome.error = none
  stdout : ∃ e : ScanError, ScanReturns args tree (.error e) ∧ e.isRootError = true ∧ outcome.stdout = e.message ++ "\n"

/-- An error is told, and nothing is printed. -/
structure EndsWithError (args : Args) (tree : FileTree) (outcome : Outcome) : Prop where
  code : outcome.code = 1
  stdout : outcome.stdout = ""
  error : ∃ text, outcome.error = some text ∧ (StartsAsConfig text ↔ ∃ cause, args.toConfig tree = .error cause)

/-- What is said about every run whose arguments can be read. -/
structure Ends (args : Args) (tree : FileTree) (outcome : Outcome) : Prop where
  /-- There are three endings, and no run has two of them. -/
  one : (EndsWell args tree outcome ∧ ¬ EndsAtRoot args tree outcome ∧ ¬ EndsWithError args tree outcome) ∨
    (¬ EndsWell args tree outcome ∧ EndsAtRoot args tree outcome ∧ ¬ EndsWithError args tree outcome) ∨
    (¬ EndsWell args tree outcome ∧ ¬ EndsAtRoot args tree outcome ∧ EndsWithError args tree outcome)
  atRoot_iff : EndsAtRoot args tree outcome ↔
    ∃ root, ScanReturns args tree (.error (.rootNotFound root)) ∨
      ScanReturns args tree (.error (.rootNotDirectory root))
  /-- A report is not printed in part. -/
  whole : ∀ report, ScanReturns args tree (.ok report) →
    outcome.stdout = "" ∨ report.render? args.format = some outcome.stdout
  /-- A configuration that passes the check of the program passes that of the scanner. -/
  accepted : ∀ config, args.toConfig tree = .ok config → ∃ s, Scanner.ofConfig config = .ok s

theorem EndsWell.not_atRoot (h : EndsWell args tree outcome) : ¬ EndsAtRoot args tree outcome := by
  intro h'
  cases h.code.symm.trans h'.code

theorem EndsWell.not_withError (h : EndsWell args tree outcome) : ¬ EndsWithError args tree outcome := by
  intro h'
  cases h.code.symm.trans h'.code

theorem EndsAtRoot.not_withError (h : EndsAtRoot args tree outcome) : ¬ EndsWithError args tree outcome := by
  intro h'
  obtain ⟨text, herror, -⟩ := h'.error
  cases h.error.symm.trans herror

theorem isRootError_eq_true_iff {e : ScanError} :
    e.isRootError = true ↔ ∃ root, e = .rootNotFound root ∨ e = .rootNotDirectory root := by
  cases e <;> simp [ScanError.isRootError]

/-! ## Every run -/

/-- The ending of an error that is no root error. -/
theorem endsWithError_of_message {e : ProgramError} (hcode : outcome.code = 1) (hstdout : outcome.stdout = "")
    (herror : outcome.error = some e.message)
    (hconfig : (∃ cause, e = .config cause) ↔ ∃ cause, args.toConfig tree = .error cause) :
    EndsWithError args tree outcome :=
  ⟨hcode, hstdout, e.message, herror, e.startsAsConfig_iff.trans hconfig⟩

theorem Ends.of_well (h : EndsWell args tree outcome) : Ends args tree outcome := by
  obtain ⟨report, text, hreturns, hrender, hstdout⟩ := h.stdout
  refine ⟨Or.inl ⟨h, h.not_atRoot, h.not_withError⟩, ⟨fun h' => absurd h' h.not_atRoot, ?_⟩,
    fun report' hreturns' => ?_, fun _ => exists_ofConfig⟩
  · rintro ⟨root, hroot | hroot⟩
    · cases scanReturns_unique hreturns hroot
    · cases scanReturns_unique hreturns hroot
  · obtain rfl := Except.ok.inj (scanReturns_unique hreturns hreturns')
    rw [hstdout]
    cases args.outputFile.isSome with
    | true => exact Or.inl rfl
    | false => exact Or.inr hrender

theorem Ends.of_atRoot (h : EndsAtRoot args tree outcome) : Ends args tree outcome := by
  obtain ⟨e, hreturns, he, -⟩ := h.stdout
  refine ⟨Or.inr (Or.inl ⟨fun h' => h'.not_atRoot h, h, h.not_withError⟩), ⟨fun _ => ?_, fun _ => h⟩,
    fun report hreturns' => ?_, fun _ => exists_ofConfig⟩
  · obtain ⟨root, rfl | rfl⟩ := isRootError_eq_true_iff.mp he
    · exact ⟨root, Or.inl hreturns⟩
    · exact ⟨root, Or.inr hreturns⟩
  · cases scanReturns_unique hreturns hreturns'

theorem Ends.of_withError (h : EndsWithError args tree outcome)
    (hroot : ∀ e, ScanReturns args tree (.error e) → e.isRootError = false) : Ends args tree outcome := by
  refine ⟨Or.inr (Or.inr ⟨fun h' => h'.not_withError h, fun h' => h'.not_withError h, h⟩),
    ⟨fun h' => absurd h h'.not_withError, ?_⟩, fun _ _ => Or.inl h.stdout, fun _ => exists_ofConfig⟩
  rintro ⟨root, hreturns | hreturns⟩
  · cases hroot _ hreturns
  · cases hroot _ hreturns

/-- A run with a configuration does not fail for it. -/
theorem config_iff_of_ok {e : ProgramError} {config : ScanConfig} (he : ∀ cause, e ≠ .config cause)
    (hconfig : args.toConfig tree = .ok config) :
    (∃ cause, e = .config cause) ↔ ∃ cause, args.toConfig tree = .error cause := by
  rw [hconfig]
  exact ⟨fun ⟨cause, h⟩ => absurd h (he cause), fun ⟨_, h⟩ => nomatch h⟩

/-- **Every run whose arguments can be read comes to exactly one of the three endings.** -/
theorem execute_ends {argv : List Argument} (h : Args.ofArguments argv = .ok args) (setting : Option String)
    (tree : FileTree) : Ends args tree (execute argv setting tree).1 := by
  obtain ⟨result, log, hcompose, hcomposed⟩ := composed args tree
  rw [execute_of_ok h, exec_perform hcompose]
  cases hcomposed with
  | misconfigured cause hconfig =>
      refine .of_withError (endsWithError_of_message rfl rfl rfl ⟨fun _ => ⟨cause, hconfig⟩, fun _ => ⟨cause, rfl⟩⟩) ?_
      rintro e ⟨config, -, hconfig', -⟩
      cases hconfig.symm.trans hconfig'
  | stopped config s e final hconfig hs hscan =>
      have hreturns := ScanReturns.of_scanned hconfig hs hscan
      show Ends args tree (ProgramError.outcome (.scan e) _)
      cases he : e.isRootError with
      | true =>
          rw [ProgramError.outcome, he]
          exact .of_atRoot ⟨rfl, rfl, e, hreturns, he, rfl⟩
      | false =>
          rw [ProgramError.outcome, he]
          refine .of_withError (endsWithError_of_message rfl rfl rfl (config_iff_of_ok nofun hconfig))
            fun e' hreturns' => ?_
          rw [← Except.error.inj (scanReturns_unique hreturns hreturns')]
          exact he
  | unprintable config s report final hconfig hs hscan hrender =>
      have hreturns := ScanReturns.of_scanned hconfig hs hscan
      refine .of_withError (endsWithError_of_message rfl rfl rfl (config_iff_of_ok nofun hconfig)) fun e hreturns' => ?_
      cases scanReturns_unique hreturns hreturns'
  | rendered config s report final text hconfig hs hscan hrender =>
      have hreturns := ScanReturns.of_scanned hconfig hs hscan
      dsimp only
      rw [exec_publish]
      cases houtput : args.outputFile with
      | none => exact .of_well ⟨rfl, rfl, report, text, hreturns, hrender, by rw [houtput]; rfl⟩
      | some path =>
          dsimp only
          cases tree.write .user path (Utf8.encode text.toList) with
          | ok after => exact .of_well ⟨rfl, rfl, report, text, hreturns, hrender, by rw [houtput]; rfl⟩
          | error cause =>
              refine .of_withError (endsWithError_of_message rfl rfl rfl (config_iff_of_ok nofun hconfig))
                fun e hreturns' => ?_
              cases scanReturns_unique hreturns hreturns'

/-- A command line with a root that is missing in `sampleTree`. -/
def sampleLost : List Argument := [.ofString "-p", .ofString "B", .ofString "x"]

theorem sampleLost_ends :
    ∃ args, Args.ofArguments sampleLost = .ok args ∧ Ends args sampleTree (execute sampleLost none sampleTree).1 ∧
      EndsAtRoot args sampleTree (execute sampleLost none sampleTree).1 ∧
      (execute sampleLost none sampleTree).1.stdout = "source root 'x' not found\n" := by
  let args : Args := { Args.empty with roots := [.ofString "x"], pattern := some "B" }
  let config : ScanConfig := args.applyTo .default
  have hargs : Args.ofArguments sampleLost = .ok args := by decide +kernel
  have hends := execute_ends hargs none sampleTree
  have hreturns : ScanReturns args sampleTree (.error (.rootNotFound (.ofString "x"))) :=
    ⟨config, ⟨config, samplePattern⟩, by decide +kernel, by decide +kernel,
      result_eq_of_checkRoots_error (by decide +kernel)⟩
  have hroot := hends.atRoot_iff.mpr ⟨_, Or.inl hreturns⟩
  obtain ⟨e, hreturns', -, hstdout⟩ := hroot.stdout
  obtain rfl := Except.error.inj (scanReturns_unique hreturns hreturns')
  exact ⟨args, hargs, hends, hroot, hstdout.trans (by decide +kernel)⟩

end Program

end BuilderAudit
