import BuilderAudit.Proofs.Scan.Execution

/-!
# The history of a run

A transformer may change the tree after every match, so a run can see another tree at every step. The history of a run
keeps for each root the tree in which the root is opened, and for each of its candidate files the tree in which the file
is read. What a report holds at the end is read off the history alone.

* `Turn`, `RootTurn`, `Scanner.history` : the steps of a run with their trees;
* `RootTurn.Opened` : what the discovery of a root has found;
* `Scanner.Accumulates` : what holds of each step of a run that ends well adds up over the whole run
  (`Scanner.Accumulates.run`);
* `Report.Adds` : what some turns add to a report (`accumulates_adds`).
-/

namespace BuilderAudit

/-- One candidate file, with the tree in which it is read. -/
structure Turn where
  tree : FileTree
  path : Path

def Turn.loaded (turn : Turn) : Except FileError SourceFile := SourceFile.load turn.tree turn.path

def Turn.isLoaded (turn : Turn) : Bool := turn.loaded.isOk

/-- One root, with the tree in which it is opened and the turns of its candidate files. -/
structure RootTurn where
  tree : FileTree
  root : Path
  files : List Turn

namespace Scanner

variable {σ : Type}

/-- The source file of a turn, if it can be read and carries the marker. -/
def marked? (s : Scanner) (turn : Turn) : Option SourceFile :=
  match turn.loaded with
  | .ok source => if s.config.detector.isDeprecated source then some source else none
  | .error _ => none

/-- The discovery that opens a root. -/
def discovery (s : Scanner) (turn : RootTurn) : Except ScanError Discovery :=
  (discover turn.tree turn.root s.pattern s.config.onReadError).1

/-- The turns of the loop over some candidate files. -/
def fileTurns (s : Scanner) (t : Transformer σ) : List Path → RunState σ → List Turn
  | [], _ => []
  | path :: paths, state => ⟨state.tree, path⟩ :: s.fileTurns t paths ((s.scanFile t path).exec state).2

def rootTurn (s : Scanner) (t : Transformer σ) (root : Path) (state : RunState σ) : RootTurn where
  tree := state.tree
  root := root
  files :=
    match (s.openRoot root).exec state with
    | (.ok files, opened) => s.fileTurns t files opened
    | (.error _, _) => []

def rootTurns (s : Scanner) (t : Transformer σ) : List Path → RunState σ → List RootTurn
  | [], _ => []
  | root :: roots, state => s.rootTurn t root state :: s.rootTurns t roots ((s.scanRoot t root).exec state).2

def history (s : Scanner) (t : Transformer σ) (state : RunState σ) : List RootTurn :=
  s.rootTurns t s.config.sourceRoots (s.started state)

end Scanner

/-- The discovery of a root has succeeded, and the turns are those of the files that it has found. -/
structure RootTurn.Opened (s : Scanner) (turn : RootTurn) (found : Discovery) : Prop where
  discovery : s.discovery turn = .ok found
  files : turn.files.map Turn.path = found.files

/-! ## Files that can be read -/

section Turn

variable {tree : FileTree} {path : Path} {source : SourceFile} {cause : FileError} {s : Scanner}

theorem Turn.isLoaded_of_ok (h : SourceFile.load tree path = .ok source) : (Turn.mk tree path).isLoaded = true := by
  rw [Turn.isLoaded, Turn.loaded, h]
  rfl

theorem Turn.isLoaded_of_error (h : SourceFile.load tree path = .error cause) :
    (Turn.mk tree path).isLoaded = false := by
  rw [Turn.isLoaded, Turn.loaded, h]
  rfl

theorem Scanner.marked?_of_ok (h : SourceFile.load tree path = .ok source) :
    s.marked? ⟨tree, path⟩ = if s.config.detector.isDeprecated source then some source else none := by
  rw [Scanner.marked?, Turn.loaded, h]

theorem Scanner.marked?_of_error (h : SourceFile.load tree path = .error cause) : s.marked? ⟨tree, path⟩ = none := by
  rw [Scanner.marked?, Turn.loaded, h]

end Turn

variable {σ : Type} {s : Scanner} {t : Transformer σ} {path root : Path} {paths roots : List Path}
  {state final : RunState σ} {report before mid after : Report} {turn : Turn} {turns more : List Turn} {m n : Nat}

/-! ## Loops that end well -/

theorem fileTurns_map_path : ∀ (paths : List Path) (state : RunState σ),
    (s.fileTurns t paths state).map Turn.path = paths
  | [], _ => rfl
  | path :: paths, state => by
      rw [Scanner.fileTurns, List.map_cons, fileTurns_map_path paths]

theorem rootTurns_map_root : ∀ (roots : List Path) (state : RunState σ),
    (s.rootTurns t roots state).map RootTurn.root = roots
  | [], _ => rfl
  | root :: roots, state => by
      rw [Scanner.rootTurns, List.map_cons, rootTurns_map_root roots]
      rfl

/-- A relation between the states before and after some turns, with a number of entries that were skipped besides, that
holds if it holds of each step. -/
structure Scanner.Accumulates (s : Scanner) (t : Transformer σ)
    (A : List Turn → Nat → RunState σ → RunState σ → Prop) : Prop where
  nothing : ∀ state, A [] 0 state state
  trans : ∀ {turns more m n before mid after},
    A turns m before mid → A more n mid after → A (turns ++ more) (m + n) before after
  opened : ∀ {root found events state}, discover state.tree root s.pattern s.config.onReadError = (.ok found, events) →
    A [] found.skipped state { state with
      log := state.log ++ [.rootStarted root] ++ events
      report := { state.report with filesSkipped := state.report.filesSkipped + found.skipped } }
  scanned : ∀ {path state final}, (s.scanFile t path).exec state = (.ok (), final) →
    A [⟨state.tree, path⟩] 0 state final

section Accumulates

variable {A : List Turn → Nat → RunState σ → RunState σ → Prop}

theorem Scanner.Accumulates.files (hA : s.Accumulates t A)
    (h : (paths.forM (s.scanFile t)).exec state = (.ok (), final)) : A (s.fileTurns t paths state) 0 state final := by
  induction paths generalizing state with
  | nil =>
      cases h
      exact hA.nothing _
  | cons path paths ih =>
      obtain ⟨mid, hpath, hrest⟩ := Run.exec_forM_cons_eq_ok_iff.mp h
      have hturns := hA.trans (hA.scanned hpath) (ih hrest)
      rw [Scanner.fileTurns, hpath]
      exact hturns

theorem Scanner.Accumulates.scanRoot (hA : s.Accumulates t A)
    (h : (s.scanRoot t root).exec state = (.ok (), final)) :
    ∃ found, (s.rootTurn t root state).Opened s found ∧
      A (s.rootTurn t root state).files found.skipped state final := by
  rw [Scanner.scanRoot_eq, Run.exec_bind_eq_ok_iff] at h
  obtain ⟨files, opened, hopen, hfiles⟩ := h
  have hturns : (s.rootTurn t root state).files = s.fileTurns t files opened := by
    simp only [Scanner.rootTurn, hopen]
  obtain ⟨found, events, hdiscover, hfound, rfl⟩ := Scanner.of_exec_openRoot_eq_ok hopen
  refine ⟨found, ⟨congrArg Prod.fst hdiscover, ?_⟩, ?_⟩
  · rw [hturns, fileTurns_map_path, hfound]
  · rw [hturns]
    exact hA.trans (hA.opened hdiscover) (hA.files hfiles)

theorem Scanner.Accumulates.scanRoots (hA : s.Accumulates t A)
    (h : (roots.forM (s.scanRoot t)).exec state = (.ok (), final)) :
    ∃ founds, List.Forall₂ (RootTurn.Opened s) (s.rootTurns t roots state) founds ∧
      A ((s.rootTurns t roots state).flatMap RootTurn.files) (founds.map Discovery.skipped).sum state final := by
  induction roots generalizing state with
  | nil =>
      cases h
      exact ⟨[], .nil, hA.nothing _⟩
  | cons root roots ih =>
      obtain ⟨mid, hroot, hrest⟩ := Run.exec_forM_cons_eq_ok_iff.mp h
      obtain ⟨found, hopened, hadds⟩ := hA.scanRoot hroot
      obtain ⟨founds, hforall, hmore⟩ := ih hrest
      refine ⟨found :: founds, ?_, ?_⟩
      · rw [Scanner.rootTurns, hroot]
        exact .cons hopened hforall
      · rw [Scanner.rootTurns, hroot, List.flatMap_cons, List.map_cons, List.sum_cons]
        exact hA.trans hadds hmore

/-- What accumulates in a run that ends well, from the state in which the first root is opened to the one behind the
last root. -/
theorem Scanner.Accumulates.run (hA : s.Accumulates t A) (h : (s.run t).exec state = (.ok report, final)) :
    ∃ founds last, List.Forall₂ (RootTurn.Opened s) (s.history t state) founds ∧
      A ((s.history t state).flatMap RootTurn.files) (founds.map Discovery.skipped).sum (s.started state) last ∧
      last.report = report ∧ last.transformer = final.transformer := by
  obtain ⟨-, last, hroots, hreport, rfl⟩ := Scanner.exec_run_eq_ok_iff.mp h
  obtain ⟨founds, hopened, hadds⟩ := hA.scanRoots hroots
  exact ⟨founds, last, hopened, hadds, hreport, rfl⟩

end Accumulates

/-! ## Numbers -/

/-- A list in which each element is changed with its number, counted from `n`. -/
def numbered {α β : Type} (f : Nat → α → β) (n : Nat) (xs : List α) : List β := xs.mapIdx fun i => f (n + i)

section Numbered

variable {α β : Type} (f : Nat → α → β) (n : Nat)

@[simp] theorem numbered_nil : numbered f n [] = [] := rfl

@[simp] theorem numbered_singleton (x : α) : numbered f n [x] = [f n x] := rfl

@[simp] theorem length_numbered (xs : List α) : (numbered f n xs).length = xs.length := List.length_mapIdx

theorem numbered_zero (xs : List α) : numbered f 0 xs = xs.mapIdx f := by
  unfold numbered
  congr 1
  funext i
  rw [Nat.zero_add]

theorem numbered_append (xs ys : List α) :
    numbered f n (xs ++ ys) = numbered f n xs ++ numbered f (n + xs.length) ys := by
  unfold numbered
  rw [List.mapIdx_append]
  congr 2
  funext i
  rw [Nat.add_assoc, Nat.add_comm i]

theorem numbered_cons (x : α) (xs : List α) : numbered f n (x :: xs) = f n x :: numbered f (n + 1) xs :=
  numbered_append f n [x] xs

end Numbered

/-- What some turns add to a report, with a number of entries that were skipped besides. -/
structure Report.Adds (s : Scanner) (turns : List Turn) (skipped : Nat) (before after : Report) : Prop where
  roots : after.roots = before.roots
  filesScanned : after.filesScanned = before.filesScanned + turns.countP Turn.isLoaded
  filesSkipped : after.filesSkipped = before.filesSkipped + skipped + turns.countP fun turn => !turn.isLoaded
  found : after.found = before.found ++ numbered s.matchOf before.found.length (turns.filterMap s.marked?)

theorem Report.Adds.entries (s : Scanner) (report : Report) (n : Nat) :
    report.Adds s [] n { report with filesSkipped := report.filesSkipped + n } :=
  ⟨rfl, rfl, rfl, (List.append_nil _).symm⟩

theorem Report.Adds.nothing (s : Scanner) (report : Report) : report.Adds s [] 0 report := .entries s report 0

theorem Report.Adds.trans (h : Report.Adds s turns m before mid) (h' : Report.Adds s more n mid after) :
    Report.Adds s (turns ++ more) (m + n) before after := by
  refine ⟨h'.roots.trans h.roots, ?_, ?_, ?_⟩
  · rw [h'.filesScanned, h.filesScanned, List.countP_append, Nat.add_assoc]
  · rw [h'.filesSkipped, h.filesSkipped, List.countP_append]
    omega
  · rw [h'.found, h.found, List.filterMap_append, numbered_append, List.length_append, length_numbered,
      List.append_assoc]

theorem report_of_exec_scanFile (h : (s.scanFile t path).exec state = (.ok (), final)) :
    Report.Adds s [⟨state.tree, path⟩] 0 state.report final.report := by
  have hstep := s.scanFile_step t path state
  rw [h] at hstep
  cases hstep with
  | skipped cause hload hpolicy =>
      have hloaded := Turn.isLoaded_of_error hload
      refine ⟨rfl, ?_, ?_, ?_⟩
      · simp [hloaded]
      · simp [hloaded]
      · simp [Scanner.marked?_of_error hload]
  | unmarked source hload hmarked =>
      have hloaded := Turn.isLoaded_of_ok hload
      refine ⟨rfl, ?_, ?_, ?_⟩
      · simp [hloaded]
      · simp [hloaded]
      · simp [Scanner.marked?_of_ok hload, hmarked]
  | accepted source hload hmarked hrefusal =>
      have hloaded := Turn.isLoaded_of_ok hload
      refine ⟨rfl, ?_, ?_, ?_⟩
      · simp [hloaded]
      · simp [hloaded]
      · simp [Scanner.marked?_of_ok hload, hmarked, Scanner.nextMatch]

/-- What a run that ends well reports, read off its history. -/
theorem accumulates_adds (s : Scanner) (t : Transformer σ) :
    s.Accumulates t fun turns skipped before after => Report.Adds s turns skipped before.report after.report where
  nothing state := .nothing s state.report
  trans := Report.Adds.trans
  opened _ := .entries s _ _
  scanned := report_of_exec_scanFile

end BuilderAudit
