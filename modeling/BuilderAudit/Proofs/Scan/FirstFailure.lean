import BuilderAudit.Proofs.Discovery.Listing
import BuilderAudit.Proofs.Scan.Policy

/-!
# The first failure of a run

A root is walked before its files are read, and its files are read before the next root is walked. So a run that skips
nothing stops at the first root under which something cannot be read: for a directory if one cannot be listed, whatever
comes before it in the walk, and for a file otherwise. What has been handed over by then are the matches of the files
that have been read.

* `Survey` : what stands under a root (`exists_surveys`);
* `Run.Hands` : what a part of a run hands over, and how it ends (`Run.Hands.bind`);
* `Run.Hands.forM`, `Run.Hands.forM_error` : a loop ends with its first turn that fails;
* `hands_scanFile`, `hands_scanRoot`, `hands_scanRoot_unlisted`, `hands_scanRoot_unreadable` : files and roots;
* `run_fails_first` : where a run stops, and what it has handed over (`Scanner.FailsFirst`).
-/

namespace BuilderAudit

/-- What stands under a root: the directories that cannot be listed, and the files that are discovered without them. -/
structure Survey where
  root : Path
  unread : List (List Name × FileError)
  files : List Path

/-- The survey is that of its root in a tree. -/
structure Survey.Of (survey : Survey) (tree : FileTree) (pattern : FilePattern) : Prop where
  unread : Walk.Unread tree (survey.root.absolute tree.cwdPath) survey.unread
  files : (discover tree survey.root pattern .skip).1 = .ok ⟨survey.files, survey.unread.length⟩

/-- All directories can be listed and all files can be loaded. -/
structure Survey.Clean (survey : Survey) (tree : FileTree) : Prop where
  listed : survey.unread = []
  loaded : ∀ path ∈ survey.files, ∃ source, SourceFile.load tree path = .ok source

variable {σ α β : Type} {s : Scanner} {t : Transformer σ} {tree : FileTree} {path root : Path} {paths roots : List Path}
  {pattern : FilePattern} {before : List Handed} {survey : Survey} {surveys : List Survey}
  {sources more : List SourceFile} {e : ScanError} {cause : FileError}

theorem exists_survey (ht : tree.WellFormed) (hcwd : tree.cwdRemoved = false) (pattern : FilePattern)
    (hcheck : checkRoot tree root = .ok ()) : ∃ survey : Survey, survey.root = root ∧ survey.Of tree pattern := by
  obtain ⟨unread, hunread⟩ := exists_unread_of_checkRoot hcheck hcwd ht
  exact ⟨⟨root, unread, _⟩, rfl, hunread, discover_skip hcheck hcwd hunread⟩

theorem exists_surveys (ht : tree.WellFormed) (hcwd : tree.cwdRemoved = false) (pattern : FilePattern)
    (hcheck : ∀ root ∈ roots, checkRoot tree root = .ok ()) :
    ∃ surveys : List Survey, surveys.map Survey.root = roots ∧ ∀ survey ∈ surveys, survey.Of tree pattern := by
  induction roots with
  | nil => exact ⟨[], rfl, nofun⟩
  | cons root roots ih =>
      rw [List.forall_mem_cons] at hcheck
      obtain ⟨survey, rfl, hsurvey⟩ := exists_survey ht hcwd pattern hcheck.1
      obtain ⟨surveys, rfl, hsurveys⟩ := ih hcheck.2
      exact ⟨survey :: surveys, rfl, List.forall_mem_cons.mpr ⟨hsurvey, hsurveys⟩⟩

/-- Where all directories can be listed, a strict discovery finds the same files. -/
theorem Survey.Of.discover_listed (h : survey.Of tree pattern) (hcwd : tree.cwdRemoved = false)
    (hcheck : checkRoot tree survey.root = .ok ()) (hlisted : survey.unread = []) :
    (discover tree survey.root pattern .fail).1 = .ok ⟨survey.files, 0⟩ := by
  obtain ⟨hunread, hfiles⟩ := h
  rw [hlisted] at hunread hfiles
  have hskip : (discover tree survey.root pattern .skip).1 = _ := discover_skip hcheck hcwd hunread
  exact (discover_fail_nil hcheck hcwd hunread).trans (hskip.symm.trans hfiles)

/-! ## Parts of a run -/

/-- The tree is as ever, and `sources` have been handed over since `before`. -/
structure RunState.HandedIn (state : RunState (σ × List Handed)) (s : Scanner) (tree : FileTree) (before : List Handed)
    (sources : List SourceFile) : Prop where
  tree : state.tree = tree
  inStep : Handed.InStep s before sources state

/-- A part of a run that comes to a result, whatever has been handed over, and hands over `more`. -/
def Run.Hands (s : Scanner) (tree : FileTree) (part : Run (σ × List Handed) α) (more : List SourceFile)
    (result : Except ScanError α) : Prop :=
  ∀ before sources state, state.HandedIn s tree before sources →
    ∃ final, part.exec state = (result, final) ∧ final.HandedIn s tree before (sources ++ more)

namespace Run.Hands

variable {part : Run (σ × List Handed) α} {next : α → Run (σ × List Handed) β} {a : α} {result : Except ScanError β}
  {further : List SourceFile}

theorem bind (h : Hands s tree part more (.ok a)) (hnext : Hands s tree (next a) further result) :
    Hands s tree (part >>= next) (more ++ further) result := by
  intro before sources state hstate
  obtain ⟨mid, hmid, hhanded⟩ := h before sources state hstate
  obtain ⟨final, hfinal, hhanded'⟩ := hnext before _ mid hhanded
  rw [List.append_assoc] at hhanded'
  exact ⟨final, (Run.exec_bind_of_ok hmid).trans hfinal, hhanded'⟩

theorem bind_error (h : Hands s tree part more (.error e)) : Hands s tree (part >>= next) more (.error e) := by
  intro before sources state hstate
  obtain ⟨final, hfinal, hhanded⟩ := h before sources state hstate
  exact ⟨final, Run.exec_bind_of_error hfinal, hhanded⟩

/-! ## Loops -/

variable {ι : Type} {f : α → Run (σ × List Handed) Unit} {g : ι → α} {hands : ι → List SourceFile} {xs : List ι}
  {x : ι}

/-- All turns of a loop end well. -/
theorem forM (h : ∀ x ∈ xs, Hands s tree (f (g x)) (hands x) (.ok ())) :
    Hands s tree ((xs.map g).forM f) (xs.flatMap hands) (.ok ()) := by
  induction xs with
  | nil =>
      intro before sources state hstate
      refine ⟨state, rfl, ?_⟩
      rw [List.flatMap_nil, List.append_nil]
      exact hstate
  | cons x xs ih =>
      rw [List.forall_mem_cons] at h
      rw [List.flatMap_cons]
      exact h.1.bind (ih h.2)

/-- The first turn that fails ends a loop. -/
theorem forM_error (h : ∀ x ∈ xs, Hands s tree (f (g x)) (hands x) (.ok ()))
    (hx : Hands s tree (f (g x)) more (.error e)) (ys : List ι) :
    Hands s tree (((xs ++ x :: ys).map g).forM f) (xs.flatMap hands ++ more) (.error e) := by
  induction xs with
  | nil => exact hx.bind_error
  | cons x' xs ih =>
      rw [List.forall_mem_cons] at h
      rw [List.flatMap_cons, List.append_assoc]
      exact h.1.bind (ih h.2)

end Run.Hands

/-! ## Files -/

theorem markedAt?_of_load_ok {source : SourceFile} (h : SourceFile.load tree path = .ok source) :
    s.config.markedAt? tree path = if s.config.detector.isDeprecated source then some source else none := by
  rw [← marked?_mk, Scanner.marked?_of_ok h]

theorem hands_scanFile (ht : t.KeepsTree) (ha : t.AcceptsAll) (h : ∃ source, SourceFile.load tree path = .ok source) :
    Run.Hands s tree (s.scanFile t.recorded path) (s.config.markedAt? tree path).toList (.ok ()) := by
  obtain ⟨source, h⟩ := h
  rintro before sources state ⟨rfl, hstate⟩
  rw [markedAt?_of_load_ok h]
  cases hmarked : s.config.detector.isDeprecated source with
  | false =>
      refine ⟨_, (Scanner.FileStep.unmarked source h hmarked).exec_eq, rfl, ?_⟩
      rw [if_neg Bool.false_ne_true, Option.toList_none, List.append_nil]
      exact ⟨hstate.found, hstate.handed⟩
  | true =>
      have hrefusal : (s.handover t.recorded state source).refusal = none := ha ..
      exact ⟨_, (Scanner.FileStep.accepted source h hmarked hrefusal).exec_eq, ht .., hstate.accept hrefusal rfl rfl⟩

theorem hands_scanFile_unreadable (hpolicy : s.config.onReadError = .fail)
    (h : SourceFile.load tree path = .error cause) :
    Run.Hands s tree (s.scanFile t.recorded path) [] (.error (.unreadableFile path cause)) := by
  rintro before sources state ⟨rfl, hstate⟩
  refine ⟨state, (Scanner.FileStep.unreadable cause h hpolicy).exec_eq, rfl, ?_⟩
  rw [List.append_nil]
  exact hstate

/-! ## Roots -/

section Roots

variable (hpolicy : s.config.onReadError = .fail)
include hpolicy

theorem hands_openRoot {found : Discovery} (h : (discover tree root s.pattern .fail).1 = .ok found) :
    Run.Hands s tree (s.openRoot root : Run (σ × List Handed) (List Path)) [] (.ok found.files) := by
  rintro before sources state ⟨rfl, hfound, hhanded⟩
  rw [← hpolicy] at h
  refine ⟨_, exec_openRoot_of_ok (Prod.ext h rfl), rfl, ?_⟩
  rw [List.append_nil]
  exact ⟨hfound, hhanded⟩

theorem hands_openRoot_error (h : (discover tree root s.pattern .fail).1 = .error e) :
    Run.Hands s tree (s.openRoot root : Run (σ × List Handed) (List Path)) [] (.error e) := by
  rintro before sources state ⟨rfl, hfound, hhanded⟩
  rw [← hpolicy] at h
  refine ⟨_, exec_openRoot_of_error (Prod.ext h rfl), rfl, ?_⟩
  rw [List.append_nil]
  exact ⟨hfound, hhanded⟩

variable (hsurvey : survey.Of tree s.pattern) (hcwd : tree.cwdRemoved = false)
  (hcheck : checkRoot tree survey.root = .ok ())
include hsurvey hcwd hcheck

/-- A directory that cannot be listed stops the run before a file is read. -/
theorem hands_scanRoot_unlisted {names : List Name} {rest : List (List Name × FileError)}
    (hunread : survey.unread = (names, cause) :: rest) :
    Run.Hands s tree (s.scanRoot t.recorded survey.root) []
      (.error (.unreadableDirectory ((survey.root.absolute tree.cwdPath).joinAll names) cause)) := by
  have hdirectories := hsurvey.unread
  rw [hunread] at hdirectories
  rw [Scanner.scanRoot_eq]
  exact (hands_openRoot_error hpolicy (discover_fail_cons hcheck hcwd hdirectories)).bind_error

theorem hands_openRoot_listed (hlisted : survey.unread = []) :
    Run.Hands s tree (s.openRoot survey.root : Run (σ × List Handed) (List Path)) [] (.ok survey.files) :=
  hands_openRoot hpolicy (hsurvey.discover_listed hcwd hcheck hlisted)

variable (hkeeps : t.KeepsTree) (haccepts : t.AcceptsAll) (hlisted : survey.unread = [])
include hkeeps haccepts hlisted

/-- If everything can be read, the matches of all files are handed over. -/
theorem hands_scanRoot (hloaded : ∀ path ∈ survey.files, ∃ source, SourceFile.load tree path = .ok source) :
    Run.Hands s tree (s.scanRoot t.recorded survey.root) (survey.files.filterMap (s.config.markedAt? tree))
      (.ok ()) := by
  have hfiles := Run.Hands.forM (g := id) (f := s.scanFile t.recorded) fun path hpath =>
    hands_scanFile hkeeps haccepts (hloaded path hpath)
  rw [List.map_id, ← List.filterMap_eq_flatMap_toList] at hfiles
  rw [Scanner.scanRoot_eq]
  exact (hands_openRoot_listed hpolicy hsurvey hcwd hcheck hlisted).bind hfiles

/-- A file that cannot be loaded stops the run behind the files before it. -/
theorem hands_scanRoot_unreadable {front back : List Path} (hfiles : survey.files = front ++ path :: back)
    (hloaded : ∀ path ∈ front, ∃ source, SourceFile.load tree path = .ok source)
    (hpath : SourceFile.load tree path = .error cause) :
    Run.Hands s tree (s.scanRoot t.recorded survey.root) (front.filterMap (s.config.markedAt? tree))
      (.error (.unreadableFile path cause)) := by
  have hstop := Run.Hands.forM_error (g := id) (f := s.scanFile t.recorded)
    (fun path hpath => hands_scanFile hkeeps haccepts (hloaded path hpath))
    (hands_scanFile_unreadable hpolicy hpath) back
  rw [List.map_id, ← hfiles, ← List.filterMap_eq_flatMap_toList, List.append_nil] at hstop
  rw [Scanner.scanRoot_eq]
  exact (hands_openRoot_listed hpolicy hsurvey hcwd hcheck hlisted).bind hstop

end Roots

/-! ## Whole runs -/

section Loop

variable {state : RunState (σ × List Handed)}
  (hroots : ∀ root ∈ s.config.sourceRoots, checkRoot state.tree root = .ok ())
include hroots

theorem exec_run_of_hands
    (h : Run.Hands s state.tree (s.config.sourceRoots.forM (s.scanRoot t.recorded)) more (.ok ())) :
    ∃ report final, (s.run t.recorded).exec state = (.ok report, final) ∧
      final.transformer.2 = state.transformer.2 ++ more.mapIdx (s.handed none) := by
  obtain ⟨final, hexec, hfinal⟩ := h state.transformer.2 [] (s.started state) ⟨rfl, rfl, (List.append_nil _).symm⟩
  rw [Scanner.exec_run, checkRoots_eq_ok_iff.mpr hroots]
  simp only [hexec]
  exact ⟨_, _, rfl, hfinal.inStep.handed⟩

theorem exec_run_of_hands_error
    (h : Run.Hands s state.tree (s.config.sourceRoots.forM (s.scanRoot t.recorded)) more (.error e)) :
    ∃ final, (s.run t.recorded).exec state = (.error e, final) ∧
      final.transformer.2 = state.transformer.2 ++ more.mapIdx (s.handed none) := by
  obtain ⟨final, hexec, hfinal⟩ := h state.transformer.2 [] (s.started state) ⟨rfl, rfl, (List.append_nil _).symm⟩
  rw [Scanner.exec_run, checkRoots_eq_ok_iff.mpr hroots]
  simp only [hexec]
  exact ⟨_, rfl, hfinal.inStep.handed⟩

end Loop

/-- What a recording transformer has been handed: the matches of some files. -/
def Handed.ofFiles (s : Scanner) (tree : FileTree) (paths : List Path) : List Handed :=
  (paths.filterMap (s.config.markedAt? tree)).mapIdx (s.handed none)

/-- Where a run stops that skips nothing, and what it has handed over by then. -/
structure Scanner.FailsFirst (s : Scanner) (t : Transformer σ) (state : RunState (σ × List Handed))
    (surveys : List Survey) : Prop where
  roots : surveys.map Survey.root = s.config.sourceRoots
  surveyed : ∀ survey ∈ surveys, survey.Of state.tree s.pattern
  /-- If everything can be read, the run ends well. -/
  clean : (∀ survey ∈ surveys, survey.Clean state.tree) →
    ∃ report final, (s.run t.recorded).exec state = (.ok report, final) ∧
      final.transformer.2 = state.transformer.2 ++ Handed.ofFiles s state.tree (surveys.flatMap Survey.files)
  /-- A directory that cannot be listed stops the run before the files of its root. -/
  directory : ∀ front survey back names cause rest, surveys = front ++ survey :: back →
    (∀ earlier ∈ front, earlier.Clean state.tree) → survey.unread = (names, cause) :: rest →
    ∃ final, (s.run t.recorded).exec state =
        (.error (.unreadableDirectory ((survey.root.absolute state.tree.cwdPath).joinAll names) cause), final) ∧
      final.transformer.2 = state.transformer.2 ++ Handed.ofFiles s state.tree (front.flatMap Survey.files)
  /-- Otherwise a file that cannot be loaded stops it behind the files before. -/
  file : ∀ front survey back read path left cause, surveys = front ++ survey :: back →
    (∀ earlier ∈ front, earlier.Clean state.tree) → survey.unread = [] → survey.files = read ++ path :: left →
    (∀ earlier ∈ read, ∃ source, SourceFile.load state.tree earlier = .ok source) →
    SourceFile.load state.tree path = .error cause →
    ∃ final, (s.run t.recorded).exec state = (.error (.unreadableFile path cause), final) ∧
      final.transformer.2 = state.transformer.2 ++ Handed.ofFiles s state.tree (front.flatMap Survey.files ++ read)

/-- **A run that skips nothing stops at the first root under which something cannot be read, for a directory rather than
for a file, and has handed over the matches of the files that it has read by then.** -/
theorem run_fails_first {config : ScanConfig} (hs : Scanner.ofConfig config = .ok s)
    (hpolicy : config.onReadError = .fail) (hkeeps : t.KeepsTree) (haccepts : t.AcceptsAll)
    (state : RunState (σ × List Handed)) (ht : state.tree.WellFormed) (hcwd : state.tree.cwdRemoved = false)
    (hroots : ∀ root ∈ config.sourceRoots, checkRoot state.tree root = .ok ()) :
    ∃ surveys, s.FailsFirst t state surveys := by
  obtain ⟨-, -, rfl⟩ := Scanner.of_ofConfig_eq_ok hs
  obtain ⟨surveys, hsurveys, hof⟩ := exists_surveys ht hcwd s.pattern hroots
  have hcheck : ∀ survey ∈ surveys, checkRoot state.tree survey.root = .ok () := fun survey h =>
    hroots _ (hsurveys ▸ List.mem_map_of_mem h)
  have hclean : ∀ survey ∈ surveys, survey.Clean state.tree →
      Run.Hands s state.tree (s.scanRoot t.recorded survey.root)
        (survey.files.filterMap (s.config.markedAt? state.tree)) (.ok ()) := fun survey h hclean =>
    hands_scanRoot hpolicy (hof survey h) hcwd (hcheck survey h) hkeeps haccepts hclean.listed hclean.loaded
  refine ⟨surveys, hsurveys, hof, fun hall => ?_, ?_, ?_⟩
  · have hloop := Run.Hands.forM (g := Survey.root) (f := s.scanRoot t.recorded) fun survey h =>
      hclean survey h (hall survey h)
    rw [hsurveys, ← List.filterMap_flatMap] at hloop
    exact exec_run_of_hands hroots hloop
  · rintro front survey back names cause rest rfl hfront hunread
    have hmem : survey ∈ front ++ survey :: back := by simp
    have hstop := hands_scanRoot_unlisted (t := t) hpolicy (hof survey hmem) hcwd (hcheck survey hmem) hunread
    have hloop := Run.Hands.forM_error (g := Survey.root)
      (fun earlier h => hclean earlier (List.mem_append_left _ h) (hfront earlier h)) hstop back
    rw [hsurveys, ← List.filterMap_flatMap, List.append_nil] at hloop
    exact exec_run_of_hands_error hroots hloop
  · rintro front survey back read path left cause rfl hfront hlisted hfiles hread hpath
    have hmem : survey ∈ front ++ survey :: back := by simp
    have hstop := hands_scanRoot_unreadable hpolicy (hof survey hmem) hcwd (hcheck survey hmem) hkeeps haccepts hlisted
      hfiles hread hpath
    have hloop := Run.Hands.forM_error (g := Survey.root)
      (fun earlier h => hclean earlier (List.mem_append_left _ h) (hfront earlier h)) hstop back
    rw [hsurveys, ← List.filterMap_flatMap, ← List.filterMap_append] at hloop
    exact exec_run_of_hands_error hroots hloop

/-- The sample scanner with its roots the other way round, and without skips. -/
def sampleStrict : Scanner where
  config :=
    { sampleScanner.config with
      sourceRoots := sampleScanner.config.sourceRoots.reverse
      onReadError := .fail }
  pattern := samplePattern

def sampleStrictState : RunState (Unit × List Handed) := ⟨sampleTree, ((), []), [], Report.start []⟩

set_option maxRecDepth 20000 in
/-- The directory `/w/s/b` stops the run, although the file `/w/s/B.` comes before it and is no text. -/
theorem run_sampleStrict : ((sampleStrict.run Transformer.idle.recorded).exec sampleStrictState).1 =
    .error (.unreadableDirectory ⟨[0x2F, 0x77, 0x2F, 0x73, 0x2F, 0x62]⟩ .permissionDenied) := by cbv

theorem sampleStrict_fails_first :
    Scanner.ofConfig sampleStrict.config = .ok sampleStrict ∧ sampleStrict.config.onReadError = .fail ∧
      Transformer.idle.KeepsTree ∧ Transformer.idle.AcceptsAll ∧ sampleStrictState.tree.WellFormed ∧
      sampleStrictState.tree.cwdRemoved = false ∧
      (∀ root ∈ sampleStrict.config.sourceRoots, checkRoot sampleStrictState.tree root = .ok ()) ∧
      (∃ surveys, sampleStrict.FailsFirst Transformer.idle sampleStrictState surveys) ∧
      ((sampleStrict.run Transformer.idle.recorded).exec sampleStrictState).1 =
        .error (.unreadableDirectory ⟨[0x2F, 0x77, 0x2F, 0x73, 0x2F, 0x62]⟩ .permissionDenied) := by
  have hs : Scanner.ofConfig sampleStrict.config = .ok sampleStrict := by decide +kernel
  have hroots : ∀ root ∈ sampleStrict.config.sourceRoots, checkRoot sampleStrictState.tree root = .ok () := by
    simp only [sampleStrict, sampleScanner, List.reverse_cons, List.reverse_nil, List.nil_append, List.cons_append,
      List.forall_mem_cons]
    exact ⟨by cbv, by cbv, nofun⟩
  exact ⟨hs, rfl, idle_keepsTree, idle_acceptsAll, sampleTree_wellFormed, rfl, hroots,
    run_fails_first hs rfl idle_keepsTree idle_acceptsAll sampleStrictState sampleTree_wellFormed rfl hroots,
    run_sampleStrict⟩

end BuilderAudit
