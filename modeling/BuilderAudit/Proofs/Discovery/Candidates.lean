import BuilderAudit.Proofs.Discovery.Order
import BuilderAudit.Proofs.Discovery.Outcome
import Mathlib

/-!
# The files that a discovery lists

A discovery that succeeds lists exactly the files and links to files whose names match, in directories that its walk
comes to and can list. Since the paths are strictly increasing, the list is determined by what the tree shows: it
depends neither on the order in which directories hold their entries nor on what the files hold.

* `isDirectory_of_absoluteRoot` : what the absolute form of a root leads to;
* `mem_filterMap_candidate` : the files of a list of visits;
* `ofRoot_alike`, `discover_alike` : discoveries in trees of the same shape;
* `mem_discovered_iff` : the files that a discovery lists;
* `discover_faithful` : it has found the candidates (`Discovery.Faithful`).
-/

namespace BuilderAudit

variable {tree : FileTree} {root abs : Path} {pattern : FilePattern} {policy : ReadErrorPolicy}

/-! ## Roots that pass their check -/

/-- The absolute form of a root that passes its check does not lead to a file. -/
theorem isDirectory_of_absoluteRoot (ht : tree.WellFormed) (hcheck : checkRoot tree root = .ok ())
    (habs : absoluteRoot tree root = .ok abs) : ∀ node, tree.lookUp abs = .ok node → node.isDirectory = true := by
  intro node hnode
  obtain ⟨mode, entries, hroot⟩ := checkRoot_eq_ok_iff.mp hcheck
  obtain ⟨hcwd, rfl⟩ := absoluteRoot_eq_ok_iff.mp habs
  rw [FileTree.lookUp_absolute ht hcwd hroot hnode]
  rfl

/-! ## The files among the visits -/

theorem candidate?_eq_some_iff {v : Visit} {path : Path} :
    v.candidate? pattern = some path ↔ ∃ name, v = .file path name ∧ pattern.acceptsName name = true := by
  cases v with
  | unreadable p cause => simp [Visit.candidate?]
  | file p name =>
      simp only [Visit.candidate?, Visit.file.injEq]
      split
      · next h =>
        rw [Option.some.injEq]
        exact ⟨fun heq => ⟨name, ⟨heq, rfl⟩, h⟩, fun ⟨_, ⟨heq, _⟩, _⟩ => heq⟩
      · next h =>
        constructor
        · intro hnone
          cases hnone
        · rintro ⟨_, ⟨-, rfl⟩, hacc⟩
          exact absurd hacc h

theorem mem_filterMap_candidate {visits : List Visit} {path : Path} :
    path ∈ visits.filterMap (Visit.candidate? pattern) ↔
      ∃ name, Visit.file path name ∈ visits ∧ pattern.acceptsName name = true := by
  simp only [List.mem_filterMap, candidate?_eq_some_iff]
  constructor
  · rintro ⟨_, hv, name, rfl, hacc⟩
    exact ⟨name, hv, hacc⟩
  · rintro ⟨name, hv, hacc⟩
    exact ⟨_, hv, name, rfl, hacc⟩

theorem meets_file_iff {path : Path} {name : Name} :
    Walk.Meets tree root (.file path name) ↔
      ∃ names node, Walk.Finds tree root names name node ∧
        (node.isFile = true ∨ node.isLink = true ∧ tree.isFile path = true) ∧
        path = root.joinAll (names ++ [name]) := by
  constructor
  · intro h
    cases h with
    | file found isFile => exact ⟨_, _, found, isFile, rfl⟩
  · rintro ⟨names, node, hfound, hfile, rfl⟩
    exact .file hfound hfile

/-- The files of a walk are strictly increasing. -/
theorem files_pairwise {visits : List Visit} (h : visits.Pairwise Visit.Before) :
    (visits.filterMap (Visit.candidate? pattern)).Pairwise fun a b => a.components < b.components := by
  refine h.filterMap _ fun v w hvw a ha b hb => ?_
  obtain ⟨_, rfl, -⟩ := candidate?_eq_some_iff.mp ha
  obtain ⟨_, rfl, -⟩ := candidate?_eq_some_iff.mp hb
  exact hvw

/-! ## Trees of the same shape -/

instance : Std.Irrefl Visit.Before := ⟨fun v => List.lt_irrefl v.path.components⟩

instance : Std.Antisymm Visit.Before := ⟨fun _ _ hab hba => absurd hba (List.lt_asymm hab)⟩

theorem ofRoot_alike {a b : FileTree} (h : a.Alike b) (ha : a.WellFormed) (hb : b.WellFormed)
    (hdir : ∀ node, a.lookUp root = .ok node → node.isDirectory = true) : Walk.ofRoot a root = Walk.ofRoot b root := by
  have hdir' : ∀ node, b.lookUp root = .ok node → node.isDirectory = true := by
    intro node hnode
    have hn := FileTree.lookUp_alike h root
    rw [hnode] at hn
    generalize a.lookUp root = x at hn hdir
    cases hn with
    | ok hn => exact hn.isDirectory_eq ▸ hdir _ rfl
  refine (Walk.ofRoot_pairwise ha root).eq_of_mem_iff (Walk.ofRoot_pairwise hb root) fun v => ?_
  rw [Walk.mem_ofRoot_iff ha hdir, Walk.mem_ofRoot_iff hb hdir']
  exact ⟨Walk.meets_alike h, Walk.meets_alike h.symm⟩

theorem checkRoot_alike {a b : FileTree} (h : a.Alike b) (root : Path) : checkRoot a root = checkRoot b root := by
  rw [checkRoot, checkRoot]
  have hn := FileTree.lookUp_alike h root
  generalize a.lookUp root = x, b.lookUp root = y at hn ⊢
  cases hn with
  | error e => rfl
  | ok hn => simp only [hn.isDirectory_eq]

theorem absoluteRoot_alike {a b : FileTree} (h : a.Alike b) (root : Path) :
    absoluteRoot a root = absoluteRoot b root := by
  rw [absoluteRoot, absoluteRoot, FileTree.cwdPath, FileTree.cwdPath, h.cwd, h.cwdRemoved]

/-- Discoveries in trees of the same shape are the same. -/
theorem discover_alike {a b : FileTree} (h : a.Alike b) (ha : a.WellFormed) (hb : b.WellFormed) (root : Path)
    (pattern : FilePattern) (policy : ReadErrorPolicy) :
    discover a root pattern policy = discover b root pattern policy := by
  unfold discover
  rw [← checkRoot_alike h, ← absoluteRoot_alike h]
  cases hcheck : checkRoot a root with
  | error e => rfl
  | ok _ =>
      cases habs : absoluteRoot a root with
      | error e => rfl
      | ok abs =>
          simp only [bind, Except.bind]
          rw [ofRoot_alike h ha hb (isDirectory_of_absoluteRoot ha hcheck habs)]

/-! ## The files of a discovery -/

/-- A discovery that succeeds lists what its walk finds and its pattern accepts. -/
theorem mem_discovered_iff (ht : tree.WellFormed) {found : Discovery}
    (h : (discover tree root pattern policy).1 = .ok found) {path : Path} :
    path ∈ found.files ↔
      ∃ names name node, Walk.Finds tree (root.absolute tree.cwdPath) names name node ∧
        (node.isFile = true ∨ node.isLink = true ∧ tree.isFile path = true) ∧
        pattern.acceptsName name = true ∧ path = (root.absolute tree.cwdPath).joinAll (names ++ [name]) := by
  obtain ⟨hcheck, abs, habs, hvisits⟩ := discover_eq_ok_iff.mp h
  obtain ⟨-, rfl⟩ := ofVisits_eq_ok_iff.mp hvisits
  have hdir := isDirectory_of_absoluteRoot ht hcheck habs
  obtain ⟨-, rfl⟩ := absoluteRoot_eq_ok_iff.mp habs
  rw [mem_filterMap_candidate]
  constructor
  · rintro ⟨name, hv, hacc⟩
    obtain ⟨names, node, hfinds, hfile, hpath⟩ := meets_file_iff.mp ((Walk.mem_ofRoot_iff ht hdir).mp hv)
    exact ⟨names, name, node, hfinds, hfile, hacc, hpath⟩
  · rintro ⟨names, name, node, hfinds, hfile, hacc, hpath⟩
    exact ⟨name, (Walk.mem_ofRoot_iff ht hdir).mpr (meets_file_iff.mpr ⟨names, node, hfinds, hfile, hpath⟩), hacc⟩

/-- A discovery has found the candidates under a root: the files, and the links that lead to a file, whose names match,
in the directories that the walk comes to and can list. -/
structure Discovery.Faithful (tree : FileTree) (root : Path) (pattern : FilePattern) (policy : ReadErrorPolicy)
    (found : Discovery) : Prop where
  mem_files_iff : ∀ path, path ∈ found.files ↔
    ∃ names name node, Walk.Finds tree (root.absolute tree.cwdPath) names name node ∧
      (node.isFile = true ∨ node.isLink = true ∧ tree.isFile path = true) ∧
      pattern.accepts (Utf8.decodeLossy name) = true ∧ path = (root.absolute tree.cwdPath).joinAll (names ++ [name])
  nodup : found.files.Nodup
  /-- The paths increase when they are compared name by name. -/
  increasing : found.files.Pairwise fun a b => a.components < b.components
  /-- The order in which directories hold their entries makes no difference. -/
  unordered : ∀ other : FileTree, other.WellFormed → tree.Alike other →
    (discover other root pattern policy).1 = .ok found

/-- **A discovery that succeeds lists exactly the candidates under its root, each once, in increasing order.** -/
theorem discover_faithful (ht : tree.WellFormed) {found : Discovery}
    (h : (discover tree root pattern policy).1 = .ok found) : found.Faithful tree root pattern policy := by
  have hsorted : found.files.Pairwise fun a b => a.components < b.components := by
    obtain ⟨-, abs, -, hvisits⟩ := discover_eq_ok_iff.mp h
    obtain ⟨-, rfl⟩ := ofVisits_eq_ok_iff.mp hvisits
    exact files_pairwise (Walk.ofRoot_pairwise ht abs)
  refine ⟨fun path => mem_discovered_iff ht h, ?_, hsorted, fun other hother halike => ?_⟩
  · refine hsorted.imp fun {a b} hab => ?_
    rintro rfl
    exact List.lt_irrefl _ hab
  · rw [← discover_alike halike ht hother]
    exact h

/-- A directory `/w/s` that holds a directory `a` with a file `Bx`, links `Bl` to that file, `Bo` to itself and `Bd` to
the directory `a`, a directory `b` that cannot be listed, and a file `B.` that is not valid UTF-8. -/
def sampleTree : FileTree where
  root := .directory .directory [([0x77], .directory .directory [([0x73], .directory .directory
    [([0x61], .directory .directory [([0x42, 0x78], .file [0x40, 0x0A] .file)]),
      ([0x42, 0x6C], .link ⟨[0x61, 0x2F, 0x42, 0x78]⟩), ([0x42, 0x6F], .link ⟨[0x42, 0x6F]⟩),
      ([0x42, 0x64], .link ⟨[0x61]⟩), ([0x62], .directory ⟨false, true, true⟩ [([0x42], .file [] .file)]),
      ([0x42, 0x2E], .file [0xFF] .file)])])]
  cwd := [[0x77]]
  cwdRemoved := false

theorem sampleTree_wellFormed : sampleTree.WellFormed := by
  refine ⟨?_, fun _ => ⟨_, _, rfl⟩⟩
  simp only [sampleTree, Node.wellFormed_directory_iff, List.forall_mem_cons, List.not_mem_nil, false_implies,
    implies_true, Node.wellFormed_file, Node.wellFormed_link_iff, and_true]
  decide

def samplePattern : FilePattern := ⟨"B", .seq (.look .textStart) (.chars ⟨[⟨0x42, 0x42⟩]⟩)⟩

/-- What a walk from `s` finds in the sample: `/w/s/B.`, `/w/s/Bl` and `/w/s/a/Bx`. -/
def sampleFound : Discovery :=
  ⟨[⟨[0x2F, 0x77, 0x2F, 0x73, 0x2F, 0x42, 0x2E]⟩, ⟨[0x2F, 0x77, 0x2F, 0x73, 0x2F, 0x42, 0x6C]⟩,
    ⟨[0x2F, 0x77, 0x2F, 0x73, 0x2F, 0x61, 0x2F, 0x42, 0x78]⟩], 1⟩

set_option maxRecDepth 20000 in
theorem discover_sampleTree : (discover sampleTree ⟨[0x73]⟩ samplePattern .skip).1 = .ok sampleFound := by cbv

theorem sampleFound_faithful :
    sampleTree.WellFormed ∧ (discover sampleTree ⟨[0x73]⟩ samplePattern .skip).1 = .ok sampleFound ∧
      sampleFound.Faithful sampleTree ⟨[0x73]⟩ samplePattern .skip :=
  ⟨sampleTree_wellFormed, discover_sampleTree, discover_faithful sampleTree_wellFormed discover_sampleTree⟩

end BuilderAudit
