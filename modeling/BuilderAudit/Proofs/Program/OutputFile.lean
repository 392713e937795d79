import BuilderAudit.Proofs.CommandLine.Addition
import BuilderAudit.Proofs.FileTree.Written
import BuilderAudit.Proofs.Program.Course

/-!
# What the program changes

Without an output file the program changes nothing. With one it does what it would do without, and if there is a report,
the file holds just the text that would have been printed; nothing else has changed, and if the file cannot be written,
nothing at all.

* `Program.Delivers` : a report goes to a file, or the file is refused;
* `Program.Compares` : runs without and with an output file;
* `execute_added` : what comes of a command line to which an output file is added;
* `version_not_delivered` : the text of the version goes to no file.
-/

namespace BuilderAudit.Program

open CommandLine

/-- A report is to go to a file. -/
inductive Delivers (tree : FileTree) (path : Path) (text : String) : Outcome × FileTree → Prop
  /-- The file to which the path leads holds the text, and nothing else has changed. -/
  | written (outcome : Outcome) (after : FileTree) (reached : Reached) (place : List Name) (mode : Mode)
    (code : outcome.code = 0) (stdout : outcome.stdout = "") (error : outcome.error = none)
    (leads : tree.resolve .user .create path = .ok reached) (stands : reached.filePlace? = some place)
    (put : tree.FilePut after place (Utf8.encode text.toList) mode) : Delivers tree path text (outcome, after)
  /-- The file cannot be written, and nothing has changed. -/
  | refused (outcome : Outcome) (cause : FileError) (code : outcome.code = 1) (stdout : outcome.stdout = "")
    (error : outcome.error = some (ProgramError.unwritable path cause).message)
    (write : tree.write .user path (Utf8.encode text.toList) = .error cause) : Delivers tree path text (outcome, tree)

/-- What `plain`, a run without an output file, and `added`, the same with one, leave behind. -/
structure Compares (argv : List Argument) (tree : FileTree) (path : Path) (plain added : Outcome × FileTree) :
    Prop where
  still : plain.2 = tree
  failed : plain.1.code ≠ 0 → added = plain
  /-- The command line asks for help or for the version, or has a fault. -/
  unread : ∀ stop, Args.ofArguments argv = .error stop → added = plain
  delivered : ∀ args, Args.ofArguments argv = .ok args → plain.1.code = 0 → Delivers tree path plain.1.stdout added

variable {argv argv' front back spelled : List Argument} {file : Argument} {tree : FileTree} {args : Args}
  {e e' : Stop} {setting : Option String}

/-! ## Command lines that cannot be read -/

theorem execute_of_stop (h : Args.ofArguments argv = .error e) (h' : Args.ofArguments argv' = .error e) :
    execute argv' setting tree = execute argv setting tree := by
  rw [execute, execute, h, h']

theorem execute_of_fault (h : Args.ofArguments argv = .error e) (he : e.IsFault) :
    execute argv setting tree = (⟨2, "", none, []⟩, tree) := by
  rw [execute, h]
  cases e with
  | help => exact absurd rfl he.1
  | version => exact absurd rfl he.2
  | unknownArgument => rfl
  | invalidValue => rfl
  | argumentConflict => rfl
  | tooManyValues => rfl

theorem snd_execute_of_stop (h : Args.ofArguments argv = .error e) : (execute argv setting tree).2 = tree := by
  rw [execute, h]
  cases e <;> rfl

theorem Compares.of_same {path : Path} {plain added : Outcome × FileTree} (hstill : plain.2 = tree)
    (hsame : added = plain) (hargs : ∀ args, Args.ofArguments argv ≠ .ok args) : Compares argv tree path plain added :=
  ⟨hstill, fun _ => hsame, fun _ _ => hsame, fun args h => absurd h (hargs args)⟩

/-! ## Command lines that can be read -/

theorem code_outcome (e : ProgramError) (log : List Log.Event) : (e.outcome log).code = 1 := by
  cases e with
  | scan cause =>
      rw [ProgramError.outcome]
      cases cause.isRootError <;> rfl
  | _ => rfl

theorem compares_of_args (ht : tree.WellFormed) (hnone : args.outputFile = none) {path : Path}
    (h : Args.ofArguments argv = .ok args) (h' : Args.ofArguments argv' = .ok (args.withOutput path)) :
    Compares argv tree path (execute argv setting tree) (execute argv' setting tree) := by
  obtain ⟨result, log, hcompose, -⟩ := composed args tree
  have hcompose' : Task.exec (compose (args.withOutput path)) tree [] = (result, tree, log) := hcompose
  have hread : ∀ stop, Args.ofArguments argv ≠ .error stop := by
    rintro stop hstop
    cases h.symm.trans hstop
  rw [execute_of_ok h, execute_of_ok h', exec_perform hcompose, exec_perform hcompose']
  cases result with
  | error e => exact ⟨rfl, fun _ => rfl, fun _ _ => rfl, fun _ _ hcode => absurd hcode (by simp [code_outcome])⟩
  | ok text =>
      dsimp only
      rw [exec_publish, exec_publish, hnone, show (args.withOutput path).outputFile = some path from rfl]
      refine ⟨rfl, fun hcode => absurd rfl hcode, fun stop hstop => absurd hstop (hread stop), fun _ _ _ => ?_⟩
      dsimp only
      cases hwrite : tree.write .user path (Utf8.encode text.toList) with
      | error cause => exact .refused _ cause rfl rfl rfl hwrite
      | ok after =>
          obtain ⟨reached, place, mode, hleads, hstands, hput⟩ := FileTree.filePut_of_write ht hwrite
          exact .written _ after reached place mode rfl rfl rfl hleads hstands hput

/-- **What comes of a command line to which an output file is added.** Without it nothing is changed. With it, a run
that fails fails in the same way and changes nothing, and so does one that asks for help or for the version; a report
goes to the file to which the path leads, and nowhere else, or the file is refused. -/
theorem execute_added (ht : tree.WellFormed) (hnames : NamesNoOutput (front ++ back)) (hfits : Fits front back)
    (hitem : Item [.setting .outputFile file] spelled) (hfile : file ≠ []) (setting : Option String) :
    Compares (front ++ back) tree ⟨file⟩ (execute (front ++ back) setting tree)
      (execute (front ++ (spelled ++ back)) setting tree) := by
  have hadded := ofArguments_added hnames hfits hitem hfile
  generalize hargs : Args.ofArguments (front ++ back) = x,
    hargs' : Args.ofArguments (front ++ (spelled ++ back)) = y at hadded
  cases hadded with
  | ok h =>
      obtain ⟨hnone, rfl⟩ := h
      exact compares_of_args ht hnone hargs hargs'
  | same e =>
      exact .of_same (snd_execute_of_stop hargs) (execute_of_stop hargs hargs') fun args h => by
        cases hargs.symm.trans h
  | fault he he' =>
      refine .of_same (snd_execute_of_stop hargs) ?_ fun args h => by cases hargs.symm.trans h
      rw [execute_of_fault hargs he, execute_of_fault hargs' he']

/-- The text of the version is printed, though a file is named for it. -/
theorem version_not_delivered :
    sampleTree.WellFormed ∧ NamesNoOutput [.ofString "--version"] ∧
      (execute [.ofString "--version"] none sampleTree).1.code = 0 ∧
      ¬ Delivers sampleTree (.ofString "v") (execute [.ofString "--version"] none sampleTree).1.stdout
        (execute [.ofString "-O", .ofString "v", .ofString "--version"] none sampleTree) := by
  have hadded : (execute [.ofString "-O", .ofString "v", .ofString "--version"] none sampleTree).1.stdout ≠ "" := by
    decide +kernel
  refine ⟨sampleTree_wellFormed, by unfold NamesNoOutput; decide +kernel, by decide +kernel, fun h => hadded ?_⟩
  cases h with
  | written => assumption
  | refused => assumption

def sampleArgs : Args :=
  { Args.empty with
    roots := [.ofString "s", .ofString "s/a"]
    pattern := some "B"
    marker := some "@"
    destination := some (.ofString "d")
    builderNamespace := some "n"
    skipUnreadable := true }

/-- Two parts of a command line that says so. -/
def sampleFront : List Argument := [.ofString "s", .ofString "-pB", .ofString "-m@", .ofString "--destination=d"]

def sampleBack : List Argument :=
  [.ofString "s/a", .ofString "--namespace", .ofString "n", .ofString "--skip-unreadable"]

/-- The report of the sample goes to a new file among those that have been scanned. -/
theorem sampleArgs_added :
    sampleTree.WellFormed ∧ NamesNoOutput (sampleFront ++ sampleBack) ∧ Fits sampleFront sampleBack ∧
      Item [.setting .outputFile (.ofString "s/a/B")] [.ofString "-O", .ofString "s/a/B"] ∧
      (execute (sampleFront ++ sampleBack) none sampleTree).1.code = 0 ∧
      (execute (sampleFront ++ sampleBack) none sampleTree).1.stdout =
        "0 /w/s/Bl\n1 /w/s/a/Bx\n2 /w/s/a/Bx\n" ∧
      Delivers sampleTree (.ofString "s/a/B") "0 /w/s/Bl\n1 /w/s/a/Bx\n2 /w/s/a/Bx\n"
        (execute (sampleFront ++ ([.ofString "-O", .ofString "s/a/B"] ++ sampleBack)) none sampleTree) := by
  have hnames : NamesNoOutput (sampleFront ++ sampleBack) := by
    unfold NamesNoOutput
    decide +kernel
  have hfits : Fits sampleFront sampleBack := ⟨by decide +kernel, by
    rintro last hlast hnamed
    obtain rfl : last = .ofString "--destination=d" := by simpa [sampleFront] using hlast.symm
    exact absurd hnamed (by decide +kernel)⟩
  have hitem : Item [.setting .outputFile (.ofString "s/a/B")] [.ofString "-O", .ofString "s/a/B"] :=
    .lettersThen (s := .outputFile) (b := 0x4F) .nil rfl fun h => absurd h (by decide +kernel)
  have hargs : Args.ofArguments (sampleFront ++ sampleBack) = .ok sampleArgs := by decide +kernel
  have hreturns : ScanReturns sampleArgs sampleTree (.ok sampleReport) :=
    ⟨sampleScanner.config, sampleScanner, by decide +kernel, ofConfig_sampleScanner, run_sampleScanner_idle⟩
  have hrender : sampleReport.render? sampleArgs.format = some "0 /w/s/Bl\n1 /w/s/a/Bx\n2 /w/s/a/Bx\n" := by
    decide +kernel
  obtain ⟨log, hplain⟩ := execute_of_report hargs rfl hreturns hrender none
  have hcompares := execute_added sampleTree_wellFormed hnames hfits hitem (by decide +kernel) none
  have hdelivers := hcompares.delivered _ hargs (by rw [hplain])
  rw [hplain] at hdelivers ⊢
  exact ⟨sampleTree_wellFormed, hnames, hfits, hitem, rfl, rfl, hdelivers⟩

end BuilderAudit.Program
