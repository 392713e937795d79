import BuilderAudit.Proofs.FileTree.Written
import BuilderAudit.Proofs.Scan.StillTree
import BuilderAudit.Proofs.Scan.Recording

/-!
# What a scan does not see

A scan learns about the files of a tree only through the paths that it discovers. Two trees of the same shape may differ
in what the other files hold and in who may read them: a run goes the same way in both. What is discovered does not
depend on the content of any file at all.

* `Transformer.Blind` : the transformers that neither read nor change the tree;
* `ScanConfig.Overlooks` : trees of the same shape that differ only in files to which no discovered path leads;
* `RunState.Swapped` : states of two runs that are the same but for the tree, kept by all parts of a run;
* `run_unseen` : a run does the same in both trees (`Scanner.RunsAlike`).
-/

namespace BuilderAudit

/-- A transformer that neither reads nor changes the tree. -/
structure Transformer.Blind {σ : Type} (t : Transformer σ) : Prop where
  keeps : t.KeepsTree
  state : ∀ source found destination a b x,
    (t.transform source found destination a x).state = (t.transform source found destination b x).state
  events : ∀ source found destination a b x,
    (t.transform source found destination a x).events = (t.transform source found destination b x).events
  refusal : ∀ source found destination a b x,
    (t.transform source found destination a x).refusal = (t.transform source found destination b x).refusal

/-- A path that is discovered under one of the roots. -/
def ScanConfig.Discovers (config : ScanConfig) (pattern : FilePattern) (tree : FileTree) (path : Path) : Prop :=
  ∃ root ∈ config.sourceRoots, ∃ found,
    (discover tree root pattern config.onReadError).1 = .ok found ∧ path ∈ found.files

/-- Two trees of the same shape. Where the content or the permissions of a file differ, no discovered path leads. -/
structure ScanConfig.Overlooks (config : ScanConfig) (pattern : FilePattern) (a b : FileTree) : Prop where
  alike : a.Alike b
  unseen : ∀ names content mode content' mode', a.root.get? names = some (.file content mode) →
    b.root.get? names = some (.file content' mode') → (content, mode) ≠ (content', mode') →
    ∀ path, config.Discovers pattern a path → ∀ node, a.resolve .user .follow path ≠ .ok (.found (.within names) node)

/-- Runs in two trees do the same: they have the same result, hand over the same source files as the same matches, and
tell the same. -/
structure Scanner.RunsAlike {σ : Type} (s : Scanner) (t : Transformer σ) (a b : FileTree) : Prop where
  result : ∀ x log report, ((s.run t).exec ⟨a, x, log, report⟩).1 = ((s.run t).exec ⟨b, x, log, report⟩).1
  handed : ∀ x log report, ((s.run t.recorded).exec ⟨a, x, log, report⟩).2.transformer =
    ((s.run t.recorded).exec ⟨b, x, log, report⟩).2.transformer
  log : ∀ x log report, ((s.run t).exec ⟨a, x, log, report⟩).2.log = ((s.run t).exec ⟨b, x, log, report⟩).2.log

variable {σ : Type} {s : Scanner} {t : Transformer σ} {a b : FileTree} {path root : Path} {pattern : FilePattern}
  {config : ScanConfig}

/-! ## Files -/

/-- Two trees of the same shape agree on what a path reads if they do so on the file to which it leads. -/
theorem read_agree {r : List UInt8 → List UInt8 → Prop} (h : a.Alike b) (ha : a.WellFormed) (hb : b.WellFormed)
    (hfile : ∀ names content mode content' mode',
      a.resolve .user .follow path = .ok (.found (.within names) (.file content mode)) →
        a.root.get? names = some (.file content mode) → b.root.get? names = some (.file content' mode') →
          mode = mode' ∧ r content content') : Agree r (a.read path) (b.read path) := by
  have hr : Agree Reached.Alike (a.resolve .user .follow path) (b.resolve .user .follow path) :=
    FileTree.resolve_alike h path
  rw [FileTree.read, FileTree.read, FileTree.lookUp, FileTree.lookUp]
  generalize hx : a.resolve .user .follow path = x, hy : b.resolve .user .follow path = y at hr ⊢
  cases hr with
  | error e => exact .error e
  | ok hr =>
      cases hr with
      | missing directory name => exact .error _
      | found spot hn =>
          cases hn with
          | directory => exact .error _
          | link => exact .error _
          | file =>
              cases spot with
              | removed => cases FileTree.resolve_sound ha hx
              | within names =>
                  have hbefore : a.root.get? names = _ := FileTree.resolve_sound ha hx
                  have hafter : b.root.get? names = _ := FileTree.resolve_sound hb hy
                  obtain ⟨rfl, hcontent⟩ := hfile _ _ _ _ _ hx hbefore hafter
                  simp only [bind, Except.bind, pure, Except.pure]
                  split
                  · exact .ok hcontent
                  · exact .error _

/-- A discovered path is loaded alike from trees that differ only in what is not seen. -/
theorem load_overlooked (h : config.Overlooks pattern a b) (ha : a.WellFormed) (hb : b.WellFormed)
    (hpath : config.Discovers pattern a path) : SourceFile.load a path = SourceFile.load b path := by
  have hread : Agree Eq (a.read path) (b.read path) := by
    refine read_agree h.alike ha hb fun names content mode content' mode' hr hbefore hafter => ?_
    by_contra hne
    exact h.unseen names _ _ _ _ hbefore hafter (fun heq => hne (by cases heq; exact ⟨rfl, rfl⟩)) path hpath _ hr
  rw [SourceFile.load, SourceFile.load, FileTree.readText, FileTree.readText, hread.eq]

/-! ## The parts of a run -/

/-- States of two runs, in the trees `a` and `b`, that are the same otherwise. -/
structure RunState.Swapped (a b : FileTree) (state state' : RunState σ) : Prop where
  tree : state.tree = a
  rest : state' = { state with tree := b }

/-- A transformer that does not look at the tree does the same with the same match. -/
theorem handover_swapped (ht : t.Blind) (state : RunState σ) (b : FileTree) (source : SourceFile) :
    s.handover t { state with tree := b } source = { s.handover t state source with tree := b } := by
  have hkeeps := ht.keeps source (s.nextMatch state source) s.config.destination b state.transformer
  have hstate := ht.state source (s.nextMatch state source) s.config.destination b state.tree state.transformer
  have hevents := ht.events source (s.nextMatch state source) s.config.destination b state.tree state.transformer
  have hrefusal := ht.refusal source (s.nextMatch state source) s.config.destination b state.tree state.transformer
  show t.transform source (s.nextMatch state source) s.config.destination b state.transformer = _
  generalize t.transform source (s.nextMatch state source) s.config.destination b state.transformer = outcome
    at hkeeps hstate hevents hrefusal ⊢
  obtain ⟨tree, x, events, refusal⟩ := outcome
  obtain rfl : tree = b := hkeeps
  obtain rfl : x = _ := hstate
  obtain rfl : events = _ := hevents
  obtain rfl : refusal = _ := hrefusal
  rfl

theorem paired_scanFile_of_blind (ht : t.Blind) (hload : SourceFile.load a path = SourceFile.load b path) :
    Run.Paired (RunState.Swapped a b) (s.scanFile t path) (s.scanFile t path) := by
  rintro state _ ⟨rfl, rfl⟩
  have hload' : SourceFile.load ({ state with tree := b } : RunState σ).tree path = SourceFile.load state.tree path :=
    hload.symm
  have hstep := s.scanFile_step t path state
  generalize (s.scanFile t path).exec state = step at hstep ⊢
  cases hstep with
  | skipped cause load policy =>
      rw [(Scanner.FileStep.skipped cause (hload'.trans load) policy).exec_eq]
      exact ⟨rfl, rfl, rfl⟩
  | unreadable cause load policy =>
      rw [(Scanner.FileStep.unreadable cause (hload'.trans load) policy).exec_eq]
      exact ⟨rfl, rfl, rfl⟩
  | unmarked source load marked =>
      rw [(Scanner.FileStep.unmarked source (hload'.trans load) marked).exec_eq]
      exact ⟨rfl, rfl, rfl⟩
  | accepted source load marked refusal =>
      have hhand := @handover_swapped _ s _ ht state b source
      rw [(Scanner.FileStep.accepted source (hload'.trans load) marked (by rw [hhand]; exact refusal)).exec_eq, hhand]
      exact ⟨rfl, ht.keeps .., rfl⟩
  | refused source reason load marked refusal =>
      have hhand := @handover_swapped _ s _ ht state b source
      rw [(Scanner.FileStep.refused source reason (hload'.trans load) marked
        (by rw [hhand]; exact refusal)).exec_eq, hhand]
      exact ⟨rfl, ht.keeps .., rfl⟩

theorem paired_scanRoot_of_blind (ht : t.Blind)
    (hdiscover : discover a root s.pattern s.config.onReadError = discover b root s.pattern s.config.onReadError)
    (hload : ∀ found, (discover a root s.pattern s.config.onReadError).1 = .ok found →
      ∀ path ∈ found.files, SourceFile.load a path = SourceFile.load b path) :
    Run.Paired (RunState.Swapped a b) (s.scanRoot t root) (s.scanRoot t root) := by
  rintro state _ ⟨rfl, rfl⟩
  rw [Scanner.scanRoot_eq, Run.exec_bind, Run.exec_bind, Scanner.exec_openRoot, Scanner.exec_openRoot, ← hdiscover]
  rcases hfound : discover state.tree root s.pattern s.config.onReadError with ⟨e | found, events⟩
  · exact ⟨rfl, rfl, rfl⟩
  · have hload := hload found (congrArg Prod.fst hfound)
    exact Run.Paired.forM (fun path hpath => paired_scanFile_of_blind ht (hload path hpath)) _ _ ⟨rfl, rfl⟩

/-! ## Whole runs -/

theorem recorded_blind (ht : t.Blind) : t.recorded.Blind where
  keeps source found destination tree x := ht.keeps source found destination tree x.1
  state source found destination a b x :=
    Prod.ext (ht.state source found destination a b x.1)
      (by simp only [Transformer.recorded, ht.refusal source found destination a b x.1])
  events source found destination a b x := ht.events source found destination a b x.1
  refusal source found destination a b x := ht.refusal source found destination a b x.1

/-- Runs in two trees of the same shape end alike if whatever is discovered is loaded alike. -/
theorem exec_run_swapped (ht : t.Blind) (h : a.Alike b) (ha : a.WellFormed) (hb : b.WellFormed)
    (hload : ∀ root ∈ s.config.sourceRoots, ∀ found, (discover a root s.pattern s.config.onReadError).1 = .ok found →
      ∀ path ∈ found.files, SourceFile.load a path = SourceFile.load b path) (x : σ) (log : List Log.Event)
    (report : Report) :
    ((s.run t).exec ⟨a, x, log, report⟩).1 = ((s.run t).exec ⟨b, x, log, report⟩).1 ∧
      RunState.Swapped a b ((s.run t).exec ⟨a, x, log, report⟩).2 ((s.run t).exec ⟨b, x, log, report⟩).2 := by
  have hcheck : checkRoot a = checkRoot b := funext fun root => checkRoot_alike h root
  refine Scanner.paired_run ?_ ?_ (by rw [hcheck]) ⟨rfl, rfl⟩ (Run.Paired.forM fun root hroot => ?_)
  · rintro last _ ⟨-, rfl⟩
    rfl
  · rintro last _ events ⟨htree, rfl⟩
    exact ⟨htree, rfl⟩
  · exact paired_scanRoot_of_blind ht (discover_alike h ha hb root s.pattern s.config.onReadError) (hload root hroot)

/-- Runs in two trees that differ only in what is not seen end alike. -/
theorem exec_run_overlooked (hs : Scanner.ofConfig config = .ok s) (ht : t.Blind) (ha : a.WellFormed)
    (hb : b.WellFormed) (h : config.Overlooks s.pattern a b) (x : σ) (log : List Log.Event) (report : Report) :
    ((s.run t).exec ⟨a, x, log, report⟩).1 = ((s.run t).exec ⟨b, x, log, report⟩).1 ∧
      RunState.Swapped a b ((s.run t).exec ⟨a, x, log, report⟩).2 ((s.run t).exec ⟨b, x, log, report⟩).2 := by
  obtain ⟨-, -, rfl⟩ := Scanner.of_ofConfig_eq_ok hs
  exact exec_run_swapped ht h.alike ha hb (fun root hroot found hfound path hpath =>
    load_overlooked h ha hb ⟨root, hroot, found, hfound, hpath⟩) x log report

/-- **Files to which no discovered path leads make no difference to a run, and discoveries depend on no file's content
or permissions.** -/
theorem run_unseen (hs : Scanner.ofConfig config = .ok s) (ht : t.Blind) (ha : a.WellFormed) (hb : b.WellFormed)
    (h : config.Overlooks s.pattern a b) :
    s.RunsAlike t a b ∧ ∀ other : FileTree, other.WellFormed → a.Alike other →
      ∀ root pattern policy, discover a root pattern policy = discover other root pattern policy := by
  refine ⟨⟨fun x log report => ?_, fun x log report => ?_, fun x log report => ?_⟩, fun other hother halike =>
    discover_alike halike ha hother⟩
  · exact (exec_run_overlooked hs ht ha hb h x log report).1
  · rw [(exec_run_overlooked hs (recorded_blind ht) ha hb h x log report).2.rest]
  · rw [(exec_run_overlooked hs ht ha hb h x log report).2.rest]

theorem idle_blind : Transformer.idle.Blind := ⟨idle_keepsTree, fun _ _ _ _ _ _ => rfl, fun _ _ _ _ _ _ => rfl,
  fun _ _ _ _ _ _ => rfl⟩

/-- The file `/w/s/b/B` of `sampleTree`, in a directory that cannot be listed. -/
def sampleHidden : List Name := [[0x77], [0x73], [0x62], [0x42]]

/-- `sampleTree` with a marker in the hidden file, which nobody may read any more. -/
def sampleOther : FileTree := sampleTree.alter sampleHidden fun _ => some (.file [0x40] ⟨false, true, false⟩)

theorem sampleOther_wellFormed : sampleOther.WellFormed :=
  sampleTree_wellFormed.replaceFile rfl

set_option maxRecDepth 20000 in
theorem discover_sampleTree_below : (discover sampleTree ⟨[0x73, 0x2F, 0x61]⟩ samplePattern .skip).1 =
    .ok ⟨[⟨[0x2F, 0x77, 0x2F, 0x73, 0x2F, 0x61, 0x2F, 0x42, 0x78]⟩], 0⟩ := by cbv

/-- None of the paths that are discovered in `sampleTree` leads to the hidden file. -/
theorem filePlace_of_discovers {path : Path} (h : sampleScanner.config.Discovers samplePattern sampleTree path) :
    (sampleTree.resolve .user .follow path).map Reached.filePlace? ≠ .ok (some sampleHidden) := by
  obtain ⟨root, hroot, found, hfound, hpath⟩ := h
  simp only [sampleScanner, List.mem_cons, List.not_mem_nil, or_false] at hroot
  rcases hroot with rfl | rfl
  · obtain rfl := Except.ok.inj (discover_sampleTree.symm.trans hfound)
    revert path
    decide +kernel
  · obtain rfl := Except.ok.inj (discover_sampleTree_below.symm.trans hfound)
    revert path
    decide +kernel

theorem overlooks_sampleOther : sampleScanner.config.Overlooks samplePattern sampleTree sampleOther := by
  have hold : sampleTree.root.get? sampleHidden = some (.file [] .file) := rfl
  have hchanged : FileTree.ChangedAt sampleHidden sampleTree sampleOther :=
    (FileTree.changedAt_replace sampleTree_wellFormed hold).1
  have hthere : sampleOther.root.get? sampleHidden = some (.file [0x40] ⟨false, true, false⟩) := rfl
  refine ⟨hchanged.alike hold hthere, fun names content mode content' mode' hbefore hafter hne path hpath node hr => ?_⟩
  obtain rfl := hchanged.eq_place hbefore hafter hne
  have hnode : sampleTree.root.get? sampleHidden = some node := FileTree.resolve_sound sampleTree_wellFormed hr
  rw [hold] at hnode
  cases hnode
  exact filePlace_of_discovers hpath (by rw [hr]; rfl)

theorem sampleOther_unseen :
    Scanner.ofConfig sampleScanner.config = .ok sampleScanner ∧ Transformer.idle.Blind ∧ sampleTree.WellFormed ∧
      sampleOther.WellFormed ∧ sampleScanner.config.Overlooks samplePattern sampleTree sampleOther ∧
      sampleTree.root.get? sampleHidden = some (.file [] .file) ∧
      sampleOther.root.get? sampleHidden = some (.file [0x40] ⟨false, true, false⟩) ∧
      sampleScanner.RunsAlike Transformer.idle sampleTree sampleOther :=
  ⟨ofConfig_sampleScanner, idle_blind, sampleTree_wellFormed, sampleOther_wellFormed, overlooks_sampleOther, rfl, rfl,
    (run_unseen ofConfig_sampleScanner idle_blind sampleTree_wellFormed sampleOther_wellFormed overlooks_sampleOther).1⟩

end BuilderAudit
