import BuilderAudit.Proofs.Scan.History

/-!
# Reports on a tree that does not change

Where the transformer leaves all files alone, every step of a run sees the tree in which the run was started. The report
is then a description of that tree: the discoveries of the roots are those of the one tree, and each file is counted and
reported for what it holds there.

* `Transformer.KeepsTree` : the transformers that leave all files alone;
* `files_rootTurns_of_keepsTree` : the history of a run in a tree that does not change;
* `report_describes` : a report describes the tree (`Report.Describes`).
-/

namespace BuilderAudit

/-- A transformer that leaves all files alone. -/
def Transformer.KeepsTree {σ : Type} (t : Transformer σ) : Prop :=
  ∀ source found destination tree x, (t.transform source found destination tree x).tree = tree

variable {σ α : Type} {s : Scanner} {t : Transformer σ} {path root : Path} {paths roots : List Path}
  {state final : RunState σ} {report : Report} {tree : FileTree}

/-! ## The tree stays -/

/-- A part of a run that leaves the tree as it is, whether it fails or not. -/
def Run.Still (part : Run σ α) : Prop :=
  ∀ tree, Run.Keeps (fun state => state.tree = tree) (fun _ state => state.tree = tree) part

theorem Run.Still.tree_eq {part : Run σ α} (h : Run.Still part) (state : RunState σ) :
    (part.exec state).2.tree = state.tree := by
  have hstill := h state.tree state rfl
  rcases hexec : part.exec state with ⟨e | a, final⟩
  · rw [hexec] at hstill
    exact hstill
  · rw [hexec] at hstill
    exact hstill

theorem still_scanFile (ht : t.KeepsTree) (path : Path) : Run.Still (s.scanFile t path) := by
  rintro tree state rfl
  have hstep := s.scanFile_step t path state
  generalize (s.scanFile t path).exec state = result at hstep ⊢
  cases hstep with
  | skipped => rfl
  | unreadable => rfl
  | unmarked => rfl
  | accepted => exact ht ..
  | refused => exact ht ..

theorem still_openRoot (s : Scanner) (root : Path) : Run.Still (s.openRoot root : Run σ (List Path)) := by
  rintro tree state rfl
  rw [Scanner.exec_openRoot]
  rcases discover state.tree root s.pattern s.config.onReadError with ⟨e | found, events⟩
  · rfl
  · rfl

theorem still_scanRoot (ht : t.KeepsTree) (root : Path) : Run.Still (s.scanRoot t root) := by
  intro tree
  rw [Scanner.scanRoot_eq]
  exact (still_openRoot s root tree).bind fun files => Run.Keeps.forM fun path _ => still_scanFile ht path tree

theorem still_run (ht : t.KeepsTree) : Run.Still (s.run t) := by
  rintro tree state rfl
  have hloop : Run.Keeps _ _ (s.config.sourceRoots.forM (s.scanRoot t)) :=
    Run.Keeps.forM fun root _ => still_scanRoot ht root state.tree
  have hstarted : (s.started state).tree = state.tree := rfl
  rw [Scanner.exec_run]
  cases s.config.sourceRoots.forM (checkRoot state.tree) with
  | error e => rfl
  | ok _ =>
      rcases hexec : (s.config.sourceRoots.forM (s.scanRoot t)).exec (s.started state) with ⟨e | _, final⟩
      · exact hloop.error hstarted hexec
      · have htree : final.tree = state.tree := hloop.ok hstarted hexec
        exact htree

/-! ## The history in a tree that does not change -/

theorem fileTurns_of_keepsTree (ht : t.KeepsTree) : ∀ (paths : List Path) (state : RunState σ),
    s.fileTurns t paths state = paths.map (Turn.mk state.tree)
  | [], _ => rfl
  | path :: paths, state => by
      rw [Scanner.fileTurns, fileTurns_of_keepsTree ht paths, (still_scanFile ht path).tree_eq, List.map_cons]

theorem files_rootTurn_of_keepsTree (ht : t.KeepsTree) {found : Discovery}
    (h : (s.rootTurn t root state).Opened s found) :
    (s.rootTurn t root state).files = found.files.map (Turn.mk state.tree) := by
  rw [← h.files]
  unfold Scanner.rootTurn
  rcases hexec : (s.openRoot root).exec state with ⟨e | files, opened⟩
  · rfl
  · have htree : opened.tree = state.tree := by
      rw [← (still_openRoot s root).tree_eq state, hexec]
    show s.fileTurns t files opened = ((s.fileTurns t files opened).map Turn.path).map (Turn.mk state.tree)
    rw [fileTurns_map_path, fileTurns_of_keepsTree ht, htree]

/-- In a tree that does not change all discoveries are of that tree, and so are the turns of the files. -/
theorem files_rootTurns_of_keepsTree (ht : t.KeepsTree) {founds : List Discovery}
    (h : List.Forall₂ (RootTurn.Opened s) (s.rootTurns t roots state) founds) :
    List.Forall₂ (fun root found => (discover state.tree root s.pattern s.config.onReadError).1 = .ok found)
        roots founds ∧
      (s.rootTurns t roots state).flatMap RootTurn.files =
        (founds.flatMap Discovery.files).map (Turn.mk state.tree) := by
  induction roots generalizing state founds with
  | nil =>
      cases h
      exact ⟨.nil, rfl⟩
  | cons root roots ih =>
      rw [Scanner.rootTurns] at h ⊢
      cases h with
      | cons hopened hrest =>
          obtain ⟨hfounds, hfiles⟩ := ih hrest
          rw [(still_scanRoot ht root).tree_eq] at hfounds hfiles
          refine ⟨.cons hopened.discovery hfounds, ?_⟩
          rw [List.flatMap_cons, hfiles, files_rootTurn_of_keepsTree ht hopened, List.flatMap_cons, List.map_append]

/-! ## The report -/

/-- The source file under a path, if it can be read as text and carries the marker. -/
def ScanConfig.markedAt? (config : ScanConfig) (tree : FileTree) (path : Path) : Option SourceFile :=
  match tree.readText path with
  | .ok content =>
    let source := SourceFile.ofContent path content
    if config.detector.isDeprecated source then some source else none
  | .error _ => none

/-- What a report says about a tree: it goes through the roots and, in each of them, through the files in the order of
their discovery. -/
structure Report.Describes (report : Report) (config : ScanConfig) (pattern : FilePattern) (tree : FileTree)
    (founds : List Discovery) : Prop where
  roots : report.roots = config.sourceRoots
  /-- The roots have been discovered one by one. -/
  discovered : List.Forall₂ (fun root found => (discover tree root pattern config.onReadError).1 = .ok found)
    config.sourceRoots founds
  /-- There is one match for each file with the marker, in the order of the discovery and numbered across all roots. -/
  found : report.found = ((founds.flatMap Discovery.files).filterMap (config.markedAt? tree)).mapIdx
    fun i source => ⟨i, source.path, source.packageName?, config.detector.markerLines source⟩
  filesScanned : report.filesScanned = (founds.flatMap Discovery.files).countP fun path => (tree.readText path).isOk
  filesSkipped : report.filesSkipped = (founds.map Discovery.skipped).sum +
    (founds.flatMap Discovery.files).countP fun path => !(tree.readText path).isOk

theorem isLoaded_mk (tree : FileTree) (path : Path) : (Turn.mk tree path).isLoaded = (tree.readText path).isOk := by
  unfold Turn.isLoaded Turn.loaded SourceFile.load
  cases tree.readText path with
  | error cause => rfl
  | ok content => rfl

theorem marked?_mk (s : Scanner) (tree : FileTree) (path : Path) :
    s.marked? ⟨tree, path⟩ = s.config.markedAt? tree path := by
  unfold Scanner.marked? ScanConfig.markedAt? Turn.loaded SourceFile.load
  cases tree.readText path with
  | error cause => rfl
  | ok content => rfl

/-- **The report of a run in a tree that does not change describes the tree.** -/
theorem report_describes {config : ScanConfig} (hs : Scanner.ofConfig config = .ok s) (ht : t.KeepsTree)
    (h : ((s.run t).exec state).1 = .ok report) : ∃ founds, report.Describes config s.pattern state.tree founds := by
  obtain ⟨-, -, rfl⟩ := Scanner.of_ofConfig_eq_ok hs
  have hexec : (s.run t).exec state = (.ok report, ((s.run t).exec state).2) := Prod.ext h rfl
  obtain ⟨founds, last, hopened, hadds, rfl, -⟩ := (accumulates_adds s t).run hexec
  obtain ⟨hfounds, hfiles⟩ := files_rootTurns_of_keepsTree ht hopened
  have hturns : (s.history t state).flatMap RootTurn.files =
      (founds.flatMap Discovery.files).map (Turn.mk state.tree) := hfiles
  rw [hturns] at hadds
  refine ⟨founds, hadds.roots, hfounds, ?_, ?_, ?_⟩
  · have hmarked : s.marked? ∘ Turn.mk state.tree = s.config.markedAt? state.tree := funext (marked?_mk s state.tree)
    rw [hadds.found, List.filterMap_map, hmarked]
    exact numbered_zero _ _
  · have hloaded : Turn.isLoaded ∘ Turn.mk state.tree = fun path => (state.tree.readText path).isOk :=
      funext (isLoaded_mk state.tree)
    rw [hadds.filesScanned, List.countP_map, hloaded]
    exact Nat.zero_add _
  · have hloaded : (fun turn : Turn => !turn.isLoaded) ∘ Turn.mk state.tree =
        fun path => !(state.tree.readText path).isOk := funext fun path => congrArg not (isLoaded_mk state.tree path)
    rw [hadds.filesSkipped, List.countP_map, hloaded]
    exact congrArg (· + _) (Nat.zero_add _)

theorem idle_keepsTree : Transformer.idle.KeepsTree := fun _ _ _ _ _ => rfl

/-- The report on `sampleTree`: the link `/w/s/Bl`, and the file `/w/s/a/Bx` once for each root. -/
def sampleReport : Report where
  roots := [⟨[0x73]⟩, ⟨[0x73, 0x2F, 0x61]⟩]
  filesScanned := 3
  filesSkipped := 2
  found :=
    [⟨0, ⟨[0x2F, 0x77, 0x2F, 0x73, 0x2F, 0x42, 0x6C]⟩, none, [1]⟩,
      ⟨1, ⟨[0x2F, 0x77, 0x2F, 0x73, 0x2F, 0x61, 0x2F, 0x42, 0x78]⟩, none, [1]⟩,
      ⟨2, ⟨[0x2F, 0x77, 0x2F, 0x73, 0x2F, 0x61, 0x2F, 0x42, 0x78]⟩, none, [1]⟩]

set_option maxRecDepth 20000 in
theorem run_sampleScanner_idle :
    ((sampleScanner.run Transformer.idle).exec ⟨sampleTree, (), [], Report.start []⟩).1 = .ok sampleReport := by cbv

theorem sampleReport_describes :
    Scanner.ofConfig sampleScanner.config = .ok sampleScanner ∧ Transformer.idle.KeepsTree ∧
      ((sampleScanner.run Transformer.idle).exec ⟨sampleTree, (), [], Report.start []⟩).1 = .ok sampleReport ∧
      ∃ founds, sampleReport.Describes sampleScanner.config samplePattern sampleTree founds :=
  ⟨ofConfig_sampleScanner, idle_keepsTree, run_sampleScanner_idle,
    report_describes ofConfig_sampleScanner idle_keepsTree run_sampleScanner_idle⟩

end BuilderAudit
