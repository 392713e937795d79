import BuilderAudit.Proofs.Scan.Recording

/-!
# The books of a run

Files may come, go and change while a run is under way. All the same each file that a discovery has found is counted
once, as scanned or as skipped, and what a match says and what is handed over for it come from one reading of the file.

* `Turn.Made` : a match and what is handed over for it are made of one content;
* `Scanner.Accounted` : the books of a run that ends well;
* `excused_of_exec_run` : why a run fails that skips what it cannot read;
* `run_accounted` : both for every run.
-/

namespace BuilderAudit

/-- A match and what is handed over for it are made of one content, the one that the file has when it is read. -/
def Turn.Made (config : ScanConfig) (turn : Turn) (found : Match) (handed : Handed) : Prop :=
  ∃ content, turn.tree.readText turn.path = .ok content ∧
    handed.source = SourceFile.ofContent turn.path content ∧ handed.found = found ∧ found.path = turn.path ∧
    found.package = (SourceFile.ofContent turn.path content).packageName? ∧
    found.markerLines = config.detector.markerLines (SourceFile.ofContent turn.path content)

variable {σ : Type} {config : ScanConfig} {s : Scanner} {t : Transformer σ} {e : ScanError}

/-- The books of a run that ends well, with what the roots were found to hold when they were opened and with what was
handed over. -/
structure Scanner.Accounted (s : Scanner) (t : Transformer σ) (state final : RunState (σ × List Handed))
    (report : Report) (founds : List Discovery) (block : List Handed) : Prop where
  roots : (s.history t.recorded state).map RootTurn.root = s.config.sourceRoots
  opened : List.Forall₂ (RootTurn.Opened s) (s.history t.recorded state) founds
  /-- Each file and each entry that was skipped counts once. -/
  total : report.filesScanned + report.filesSkipped =
    (founds.map fun found => found.files.length + found.skipped).sum
  found_le : report.found.length ≤ report.filesScanned
  skipped : s.config.onReadError = .fail → report.filesSkipped = 0
  handed : final.transformer.2 = state.transformer.2 ++ block
  length : block.length = report.found.length
  /-- The files that carry the marker when they are read make the matches, one by one. -/
  made : List.Forall₂ (fun turn pair => turn.Made s.config pair.1 pair.2)
    (((s.history t.recorded state).flatMap RootTurn.files).filter fun turn => (s.marked? turn).isSome)
    (report.found.zip block)

/-! ## Counting -/

theorem length_flatMap_files {turns : List RootTurn} {founds : List Discovery}
    (h : List.Forall₂ (RootTurn.Opened s) turns founds) :
    (turns.flatMap RootTurn.files).length + (founds.map Discovery.skipped).sum =
      (founds.map fun found => found.files.length + found.skipped).sum := by
  induction h with
  | nil => rfl
  | @cons turn found turns founds hopened _ ih =>
      have hlength : turn.files.length = found.files.length := by rw [← hopened.files, List.length_map]
      rw [List.flatMap_cons, List.length_append, List.map_cons, List.sum_cons, List.map_cons, List.sum_cons, ← ih,
        hlength]
      omega

theorem marked?_eq_some {turn : Turn} {source : SourceFile} (h : s.marked? turn = some source) :
    ∃ content, turn.tree.readText turn.path = .ok content ∧ source = SourceFile.ofContent turn.path content := by
  unfold Scanner.marked? Turn.loaded SourceFile.load at h
  cases hread : turn.tree.readText turn.path with
  | error cause =>
      rw [hread] at h
      cases h
  | ok content =>
      rw [hread] at h
      refine ⟨content, rfl, ?_⟩
      by_cases hmarked : s.config.detector.isDeprecated (SourceFile.ofContent turn.path content) = true
      · simp only [Except.map, hmarked, if_true, Option.some.injEq] at h
        exact h.symm
      · simp [Except.map, hmarked] at h

theorem isLoaded_of_marked? {turn : Turn} (h : (s.marked? turn).isSome = true) : turn.isLoaded = true := by
  obtain ⟨source, hsource⟩ := Option.isSome_iff_exists.mp h
  obtain ⟨content, hread, -⟩ := marked?_eq_some hsource
  rw [Turn.isLoaded, Turn.loaded, SourceFile.load, hread]
  rfl

theorem length_filterMap_marked?_le (s : Scanner) (turns : List Turn) :
    (turns.filterMap s.marked?).length ≤ turns.countP Turn.isLoaded := by
  rw [List.length_filterMap_eq_countP]
  exact List.countP_mono_left fun turn _ => isLoaded_of_marked?

theorem accumulates_filesSkipped (s : Scanner) (t : Transformer σ) (hpolicy : s.config.onReadError = .fail) :
    s.Accumulates t fun _ _ before after => after.report.filesSkipped = before.report.filesSkipped where
  nothing _ := rfl
  trans h h' := h'.trans h
  opened := by
    intro root found events state hdiscover
    rw [hpolicy] at hdiscover
    show state.report.filesSkipped + found.skipped = state.report.filesSkipped
    rw [skipped_eq_zero_of_fail (congrArg Prod.fst hdiscover), Nat.add_zero]
  scanned := by
    intro path state final h
    have hstep := s.scanFile_step t path state
    rw [h] at hstep
    cases hstep with
    | skipped cause load policy =>
        rw [hpolicy] at policy
        cases policy
    | unmarked => rfl
    | accepted => rfl

/-- A run that fails at whatever it cannot read skips nothing. -/
theorem filesSkipped_eq_zero {state final : RunState σ} {report : Report} (hpolicy : s.config.onReadError = .fail)
    (h : (s.run t).exec state = (.ok report, final)) : report.filesSkipped = 0 := by
  obtain ⟨_, last, -, hzero, rfl, -⟩ := (accumulates_filesSkipped s t hpolicy).run h
  exact hzero

/-! ## Matches -/

theorem made_numbered (s : Scanner) (turns : List Turn) (n : Nat) :
    List.Forall₂ (fun turn pair => turn.Made s.config pair.1 pair.2)
      (turns.filter fun turn => (s.marked? turn).isSome)
      ((numbered s.matchOf n (turns.filterMap s.marked?)).zip
        (numbered (s.handed none) n (turns.filterMap s.marked?))) := by
  induction turns generalizing n with
  | nil => exact .nil
  | cons turn turns ih =>
      cases hmarked : s.marked? turn with
      | none =>
          rw [List.filter_cons_of_neg (by simp [hmarked]), List.filterMap_cons_none hmarked]
          exact ih n
      | some source =>
          obtain ⟨content, hread, rfl⟩ := marked?_eq_some hmarked
          rw [List.filter_cons_of_pos (by simp [hmarked]), List.filterMap_cons_some hmarked, numbered_cons,
            numbered_cons, List.zip_cons_cons]
          exact .cons ⟨content, hread, rfl, rfl, rfl, rfl, rfl⟩ (ih (n + 1))

/-! ## Why a run fails -/

/-- The errors that a run may end with as long as the current directory is there, if it skips what it cannot read. -/
def ScanError.Excused (name : String) (e : ScanError) : Prop :=
  e.isRootError = true ∨ ∃ path reason, e = .refused name path reason

theorem keepsExcused_scanFile (hpolicy : s.config.onReadError = .skip) (path : Path) :
    Run.Keeps (fun _ => True) (fun e state => state.tree.cwdRemoved = false → e.Excused t.name)
      (s.scanFile t path) := by
  intro state _
  have hstep := s.scanFile_step t path state
  generalize (s.scanFile t path).exec state = step at hstep ⊢
  cases hstep with
  | skipped => trivial
  | unreadable cause load policy =>
      rw [hpolicy] at policy
      cases policy
  | unmarked => trivial
  | accepted => trivial
  | refused source reason => exact fun _ => Or.inr ⟨_, reason, rfl⟩

theorem keepsExcused_scanRoot (hpolicy : s.config.onReadError = .skip) (root : Path) :
    Run.Keeps (fun _ => True) (fun e state => state.tree.cwdRemoved = false → e.Excused t.name)
      (s.scanRoot t root) := by
  rw [Scanner.scanRoot_eq]
  refine Run.Keeps.bind ?_ fun files => Run.Keeps.forM fun path _ => keepsExcused_scanFile hpolicy path
  intro state _
  rw [Scanner.exec_openRoot]
  rcases hdiscover : discover state.tree root s.pattern s.config.onReadError with ⟨e | found, events⟩
  · intro hcwd
    rcases discover_eq_error (congrArg Prod.fst hdiscover) with hroot | ⟨hremoved, -⟩ | ⟨hfail, -⟩
    · exact Or.inl hroot
    · exact absurd (hcwd.symm.trans hremoved) Bool.false_ne_true
    · rw [hpolicy] at hfail
      cases hfail
  · trivial

/-- A run that skips what it cannot read only fails for a root or for a match that is refused, as long as the current
directory is there. -/
theorem excused_of_exec_run {state final : RunState σ} (hpolicy : s.config.onReadError = .skip)
    (h : (s.run t).exec state = (.error e, final)) (hcwd : final.tree.cwdRemoved = false) : e.Excused t.name := by
  rcases Scanner.exec_run_eq_error_iff.mp h with ⟨hcheck, -⟩ | ⟨-, hloop⟩
  · exact Or.inl (isRootError_of_checkRoots hcheck)
  · exact (Run.Keeps.forM fun root _ => keepsExcused_scanRoot hpolicy root).error trivial hloop hcwd

/-! ## The books -/

theorem accounted_of_exec_run {state final : RunState (σ × List Handed)} {report : Report}
    (h : (s.run t.recorded).exec state = (.ok report, final)) :
    ∃ founds block, s.Accounted t state final report founds block := by
  obtain ⟨founds, last, hopened, ⟨hadds, hhanded⟩, rfl, hx⟩ := (accumulates_handed s t).run h
  have hcount := length_flatMap_files hopened
  generalize hturns : (s.history t.recorded state).flatMap RootTurn.files = turns at hadds hhanded hcount
  have hscanned : last.report.filesScanned = turns.countP Turn.isLoaded := hadds.filesScanned.trans (Nat.zero_add _)
  have hskipped : last.report.filesSkipped =
      (founds.map Discovery.skipped).sum + turns.countP fun turn => !turn.isLoaded :=
    hadds.filesSkipped.trans (congrArg (· + _) (Nat.zero_add _))
  have hfound : last.report.found = numbered s.matchOf 0 (turns.filterMap s.marked?) := hadds.found
  refine ⟨founds, numbered (s.handed none) 0 (turns.filterMap s.marked?), ?_⟩
  constructor
  · exact rootTurns_map_root _ _
  · exact hopened
  · have hsplit := List.length_eq_countP_add_countP Turn.isLoaded (l := turns)
    simp only [Bool.not_eq_true, Bool.decide_eq_false] at hsplit
    omega
  · rw [hfound, length_numbered, hscanned]
    exact length_filterMap_marked?_le s turns
  · exact fun hpolicy => filesSkipped_eq_zero hpolicy h
  · rw [← hx]
    exact hhanded
  · rw [hfound, length_numbered, length_numbered]
  · rw [hturns, hfound]
    exact made_numbered s turns 0

/-- **The books of every run balance, and a run that skips what it cannot read fails for nothing else.** -/
theorem run_accounted (hs : Scanner.ofConfig config = .ok s) (t : Transformer σ) (state : RunState (σ × List Handed)) :
    (∀ report final, (s.run t.recorded).exec state = (.ok report, final) →
        ∃ founds block, s.Accounted t state final report founds block) ∧
      (config.onReadError = .skip → ∀ e final, (s.run t.recorded).exec state = (.error e, final) →
        final.tree.cwdRemoved = false → e.isRootError = true ∨ ∃ path reason, e = .refused t.name path reason) := by
  obtain ⟨-, -, rfl⟩ := Scanner.of_ofConfig_eq_ok hs
  refine ⟨fun report final h => accounted_of_exec_run h, fun hpolicy e final h hcwd => ?_⟩
  have hexcused := excused_of_exec_run hpolicy h hcwd
  exact hexcused

/-- The report on `sampleTree` if `/w/s/a/Bx` goes when `/w/s/Bl` has been handed over. -/
def sampleBooks : Report where
  roots := [⟨[0x73]⟩, ⟨[0x73, 0x2F, 0x61]⟩]
  filesScanned := 1
  filesSkipped := 3
  found := [⟨0, ⟨[0x2F, 0x77, 0x2F, 0x73, 0x2F, 0x42, 0x6C]⟩, none, [1]⟩]

set_option maxRecDepth 20000 in
theorem run_sampleState_two :
    ((sampleScanner.run sampleTransformer.recorded).exec (sampleState 2)).1 = .ok sampleBooks := by cbv

set_option maxRecDepth 20000 in
theorem run_sampleState_one : ((sampleScanner.run sampleTransformer.recorded).exec (sampleState 1)).1 =
    .error (.refused "sample" ⟨[0x2F, 0x77, 0x2F, 0x73, 0x2F, 0x42, 0x6C]⟩ "full") := by cbv

set_option maxRecDepth 20000 in
theorem cwdRemoved_run_sampleState_one :
    ((sampleScanner.run sampleTransformer.recorded).exec (sampleState 1)).2.tree.cwdRemoved = false := by cbv

theorem sampleBooks_accounted :
    Scanner.ofConfig sampleScanner.config = .ok sampleScanner ∧
      (∃ founds block, sampleScanner.Accounted sampleTransformer (sampleState 2)
        ((sampleScanner.run sampleTransformer.recorded).exec (sampleState 2)).2 sampleBooks founds block) ∧
      ∃ path reason, ScanError.refused "sample" ⟨[0x2F, 0x77, 0x2F, 0x73, 0x2F, 0x42, 0x6C]⟩ "full" =
        .refused sampleTransformer.name path reason := by
  refine ⟨ofConfig_sampleScanner, ?_, ?_⟩
  · exact (run_accounted ofConfig_sampleScanner sampleTransformer (sampleState 2)).1 _ _
      (Prod.ext run_sampleState_two rfl)
  · have hexcused := (run_accounted ofConfig_sampleScanner sampleTransformer (sampleState 1)).2 rfl _ _
      (Prod.ext run_sampleState_one rfl) cwdRemoved_run_sampleState_one
    exact hexcused.resolve_left Bool.false_ne_true

end BuilderAudit
