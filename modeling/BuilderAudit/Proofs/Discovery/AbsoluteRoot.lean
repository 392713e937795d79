import BuilderAudit.Proofs.Discovery.Links
import BuilderAudit.Proofs.FileTree.AbsoluteForm
import Mathlib

/-!
# Roots by their absolute forms

A discovery walks the absolute form of its root. How the root was spelled has no other part in it: roots that share an
absolute form, or whose forms differ by a slash at the end, give the same files. The limit for the length of a path is
the exception: an absolute form that reaches it leads nowhere, although the root that it was made from leads to a
directory.

* `ofRoot_upToSlash`, `agree_upToSlash` : walks and discoveries under forms that differ by a slash at the end;
* `AbsoluteForm` : what the absolute form of a root is and where it leads;
* `discover_absolute_form` : discoveries depend on the absolute form of their root only;
* `long_form_leads_nowhere` : not if the form is too long.
-/

namespace BuilderAudit

variable {tree : FileTree} {root root' abs abs' path : Path} {pattern : FilePattern} {policy : ReadErrorPolicy}

/-- Two discoveries have found the same, or both have failed at the same directory. -/
inductive Discovery.Agree : Except ScanError Discovery → Except ScanError Discovery → Prop
  | found (found : Discovery) : Agree (.ok found) (.ok found)
  | failed {path path' : Path} (h : path.EqUpToSlash path') (cause : FileError) :
      Agree (.error (.unreadableDirectory path cause)) (.error (.unreadableDirectory path' cause))

/-- The path lies under another one: it goes on with some names of directories and files. -/
def Path.Under (abs path : Path) : Prop :=
  ∃ names, names ≠ [] ∧ (∀ name ∈ names, ProperName name) ∧ path = abs.joinAll names

/-! ## A slash at the end of an absolute form -/

/-- Walks under the same directory meet the same, but that the root itself may be met under two paths. -/
theorem ofRoot_upToSlash (h : abs.EqUpToSlash abs') (habs : abs.bytes ≠ []) (habs' : abs'.bytes ≠ []) {mode : Mode}
    {entries : List (Name × Node)} (hl : tree.lookUp abs = .ok (.directory mode entries))
    (hl' : tree.lookUp abs' = .ok (.directory mode entries)) :
    Walk.ofRoot tree abs = Walk.ofRoot tree abs' ∨ ∃ cause, Walk.ofRoot tree abs = [.unreadable abs cause] ∧
      Walk.ofRoot tree abs' = [.unreadable abs' cause] := by
  have hlist : tree.list abs = tree.list abs' := by rw [FileTree.list, FileTree.list, hl, hl']
  have hwalk : Walk.ofRoot tree abs = Walk.visits tree abs [] (.directory mode entries) := by rw [Walk.ofRoot, hl]
  have hwalk' : Walk.ofRoot tree abs' = Walk.visits tree abs' [] (.directory mode entries) := by rw [Walk.ofRoot, hl']
  rw [hwalk, hwalk']
  cases hread : tree.list abs with
  | error cause =>
      exact .inr ⟨cause, Walk.visits_of_unlisted hread [], Walk.visits_of_unlisted (hlist ▸ hread) []⟩
  | ok es =>
      refine .inl ?_
      rw [Walk.visits_of_listed hread, Walk.visits_of_listed (hlist ▸ hread)]
      simp only [h.join_eq habs habs']

theorem agree_ofVisits (visits : List Visit) :
    Discovery.Agree (Discovery.ofVisits pattern policy visits) (Discovery.ofVisits pattern policy visits) := by
  cases policy with
  | skip =>
      rw [ofVisits_skip]
      exact .found _
  | fail =>
      rw [ofVisits_fail]
      split
      · exact .found _
      · exact .failed (.refl _) _

theorem agree_unreadable (h : abs.EqUpToSlash abs') (cause : FileError) :
    Discovery.Agree (Discovery.ofVisits pattern policy [.unreadable abs cause])
      (Discovery.ofVisits pattern policy [.unreadable abs' cause]) := by
  cases policy with
  | fail => exact .failed h cause
  | skip => exact .found ⟨[], 1⟩

theorem ofRoot_of_error {cause : FileError} (h : tree.lookUp abs = .error cause) :
    Walk.ofRoot tree abs = [.unreadable abs cause] := by
  rw [Walk.ofRoot, h]

section Root

variable (ht : tree.WellFormed) (hcwd : tree.CwdReachable) (hcheck : checkRoot tree root = .ok ())
include ht hcwd hcheck

/-- A root that passes its check leads to a directory, and so does its absolute form, if it is short enough. -/
theorem resolve_of_checkRoot : ∃ spot mode entries,
    tree.resolve .user .follow root = .ok (.found spot (.directory mode entries)) ∧
      ((root.absolute tree.cwdPath).bytes.length < pathLimit →
        tree.resolve .user .follow (root.absolute tree.cwdPath) = .ok (.found spot (.directory mode entries))) := by
  obtain ⟨mode, entries, hroot⟩ := checkRoot_eq_ok_iff.mp hcheck
  obtain ⟨spot, hroot⟩ := FileTree.lookUp_eq_ok_iff.mp hroot
  exact ⟨spot, mode, entries, hroot, FileTree.resolve_absolute ht hcwd hroot⟩

theorem nul_notMem_of_checkRoot : 0 ∉ (root.absolute tree.cwdPath).bytes := by
  obtain ⟨_, _, _, hroot, -⟩ := resolve_of_checkRoot ht hcwd hcheck
  exact hcwd.nul_notMem_absolute ht (FileTree.of_resolve_eq_ok hroot).1

/-- Discoveries agree under roots whose absolute forms differ by a slash at the end, both short enough or both too
long. -/
theorem agree_upToSlash (hcheck' : checkRoot tree root' = .ok ())
    (h : (root.absolute tree.cwdPath).EqUpToSlash (root'.absolute tree.cwdPath))
    (hlen : (root.absolute tree.cwdPath).bytes.length < pathLimit ↔
      (root'.absolute tree.cwdPath).bytes.length < pathLimit) :
    Discovery.Agree (discover tree root pattern policy).1 (discover tree root' pattern policy).1 := by
  have habs : ∀ p : Path, (p.absolute tree.cwdPath).isAbsolute = true := fun p =>
    Path.isAbsolute_absolute p (Path.isAbsolute_ofNames tree.cwd)
  have hnul := nul_notMem_of_checkRoot ht hcwd hcheck
  have hnul' := nul_notMem_of_checkRoot ht hcwd hcheck'
  rw [discover_of_checkRoot hcheck hcwd.present, discover_of_checkRoot hcheck' hcwd.present]
  by_cases hshort : (root.absolute tree.cwdPath).bytes.length < pathLimit
  · obtain ⟨spot, mode, entries, -, hform⟩ := resolve_of_checkRoot ht hcwd hcheck
    have hform' := FileTree.resolve_of_steps (habs root) (habs root') h.steps_eq hnul' (hlen.mp hshort) (hform hshort)
    rcases ofRoot_upToSlash h (Path.bytes_ne_nil_of_isAbsolute (habs root))
      (Path.bytes_ne_nil_of_isAbsolute (habs root'))
      (FileTree.lookUp_eq_ok_iff.mpr ⟨spot, hform hshort⟩) (FileTree.lookUp_eq_ok_iff.mpr ⟨spot, hform'⟩) with
      heq | ⟨cause, hvisits, hvisits'⟩
    · rw [heq]
      exact agree_ofVisits _
    · rw [hvisits, hvisits']
      exact agree_unreadable h cause
  · have hlong' := Nat.not_lt.mp (mt hlen.mpr hshort)
    rw [ofRoot_of_error (FileTree.lookUp_of_long hnul (Nat.not_lt.mp hshort)),
      ofRoot_of_error (FileTree.lookUp_of_long hnul' hlong')]
    exact agree_unreadable h _

end Root

/-- The files of a discovery lie under the absolute form of its root. -/
theorem under_of_mem_files (ht : tree.WellFormed) {found : Discovery}
    (h : (discover tree root pattern policy).1 = .ok found) (hpath : path ∈ found.files) :
    (root.absolute tree.cwdPath).Under path := by
  obtain ⟨names, name, node, hfinds, -, -, rfl⟩ := (mem_discovered_iff ht h).mp hpath
  exact ⟨names ++ [name], by simp, hfinds.proper ht, rfl⟩

theorem Path.Under.isAbsolute (h : abs.Under path) (habs : abs.isAbsolute = true) : path.isAbsolute = true := by
  obtain ⟨names, -, -, rfl⟩ := h
  exact isAbsolute_joinAll habs names

/-! ## The absolute form of a root -/

/-- What a path must be to be the absolute form of a root: its spelling, and where it leads. -/
structure AbsoluteForm (tree : FileTree) (root abs : Path) : Prop where
  walked : absoluteRoot tree root = .ok abs
  /-- Single dots and repeated slashes are dropped; double dots stay, and no link is followed. -/
  spelled : abs = .spell root.hasDoubleSlash (root.absoluteNames tree.cwd) root.endsWithSlash
  isAbsolute : abs.isAbsolute = true
  own : ∀ cwd, abs.absolute cwd = abs
  /-- It leads to the directory of the root, unless it is too long. -/
  leads : abs.bytes.length < pathLimit → ∃ spot mode entries,
    tree.resolve .user .follow root = .ok (.found spot (.directory mode entries)) ∧
      tree.resolve .user .follow abs = .ok (.found spot (.directory mode entries))
  long : pathLimit ≤ abs.bytes.length → tree.lookUp abs = .error .nameTooLong

theorem absoluteForm_of_checkRoot (ht : tree.WellFormed) (hcwd : tree.CwdReachable)
    (hcheck : checkRoot tree root = .ok ()) : AbsoluteForm tree root (root.absolute tree.cwdPath) := by
  have hcomponent : ∀ name ∈ tree.cwd, Path.Component name := fun name hname => .ofProper (hcwd.proper ht name hname)
  obtain ⟨spot, mode, entries, hroot, hform⟩ := resolve_of_checkRoot ht hcwd hcheck
  exact {
    walked := absoluteRoot_eq_ok_iff.mpr ⟨.inr hcwd.present, rfl⟩
    spelled := root.absolute_eq_spell hcomponent
    isAbsolute := root.isAbsolute_absolute (Path.isAbsolute_ofNames tree.cwd)
    own := root.absolute_absolute hcomponent
    leads := fun hlen => ⟨spot, mode, entries, hroot, hform hlen⟩
    long := FileTree.lookUp_of_long (nul_notMem_of_checkRoot ht hcwd hcheck) }

/-- **A discovery depends on its root through the absolute form of the root.** The form leads to the directory of the
root if it is short enough; roots whose forms differ by a slash at the end, both short enough or both too long, give the
same files or both an error; and all files lie under the form. -/
theorem discover_absolute_form (tree : FileTree) (root : Path) (ht : tree.WellFormed) (hcwd : tree.CwdReachable)
    (hcheck : checkRoot tree root = .ok ()) :
    ∃ abs, AbsoluteForm tree root abs ∧
      (∀ root' abs', checkRoot tree root' = .ok () → absoluteRoot tree root' = .ok abs' → abs.EqUpToSlash abs' →
        (abs.bytes.length < pathLimit ↔ abs'.bytes.length < pathLimit) → ∀ pattern policy,
          Discovery.Agree (discover tree root pattern policy).1 (discover tree root' pattern policy).1) ∧
      ∀ pattern policy found, (discover tree root pattern policy).1 = .ok found →
        ∀ path ∈ found.files, path.isAbsolute = true ∧ abs.Under path := by
  have hform := absoluteForm_of_checkRoot ht hcwd hcheck
  refine ⟨_, hform, fun root' abs' hcheck' habs' heq hlen pattern policy => ?_,
    fun pattern policy found h path hpath => ?_⟩
  · obtain ⟨-, rfl⟩ := absoluteRoot_eq_ok_iff.mp habs'
    exact agree_upToSlash ht hcwd hcheck hcheck' heq hlen
  · have hunder := under_of_mem_files ht h hpath
    exact ⟨hunder.isAbsolute hform.isAbsolute, hunder⟩

/-- The paths `s/./Bd//..` and `s/Bd/../` lead through the link `Bd` to the directory above its target. -/
theorem sampleTree_absolute_form :
    sampleTree.WellFormed ∧ sampleTree.CwdReachable ∧
      checkRoot sampleTree ⟨[0x73, 0x2F, 0x2E, 0x2F, 0x42, 0x64, 0x2F, 0x2F, 0x2E, 0x2E]⟩ = .ok () ∧
      AbsoluteForm sampleTree ⟨[0x73, 0x2F, 0x2E, 0x2F, 0x42, 0x64, 0x2F, 0x2F, 0x2E, 0x2E]⟩
        ⟨[0x2F, 0x77, 0x2F, 0x73, 0x2F, 0x42, 0x64, 0x2F, 0x2E, 0x2E]⟩ ∧
      Discovery.Agree
        (discover sampleTree ⟨[0x73, 0x2F, 0x2E, 0x2F, 0x42, 0x64, 0x2F, 0x2F, 0x2E, 0x2E]⟩ samplePattern .skip).1
        (discover sampleTree ⟨[0x73, 0x2F, 0x42, 0x64, 0x2F, 0x2E, 0x2E, 0x2F]⟩ samplePattern .skip).1 := by
  have hcwd : sampleTree.CwdReachable := .of_name rfl rfl rfl rfl
  have hcheck : checkRoot sampleTree ⟨[0x73, 0x2F, 0x2E, 0x2F, 0x42, 0x64, 0x2F, 0x2F, 0x2E, 0x2E]⟩ = .ok () := by cbv
  obtain ⟨abs, hform, hagree, -⟩ := discover_absolute_form sampleTree _ sampleTree_wellFormed hcwd hcheck
  obtain rfl : abs = ⟨[0x2F, 0x77, 0x2F, 0x73, 0x2F, 0x42, 0x64, 0x2F, 0x2E, 0x2E]⟩ :=
    Except.ok.inj (hform.walked.symm.trans (by cbv))
  exact ⟨sampleTree_wellFormed, hcwd, hcheck, hform, hagree _ _ (by cbv) (by cbv) (.more (by decide)) (by decide) _ _⟩

/-! ## Forms that are too long -/

/-- An empty directory `/wd`, which is the current one. -/
def sampleEmpty : FileTree where
  root := .directory .directory [([0x77, 0x64], .emptyDirectory)]
  cwd := [[0x77, 0x64]]
  cwdRemoved := false

/-- The path that goes up some times and then to `wd`, with a slash behind it or not. -/
def roundabout (n : Nat) (ending : Bool) : Path :=
  ⟨(List.replicate n [Path.dot, Path.dot, Path.slash]).flatten ++ [0x77, 0x64] ++ if ending then [Path.slash] else []⟩

theorem sampleEmpty_wellFormed : sampleEmpty.WellFormed := by
  refine ⟨?_, fun _ => ⟨_, _, rfl⟩⟩
  simp only [sampleEmpty, Node.emptyDirectory, Node.wellFormed_directory_iff, List.forall_mem_cons, List.not_mem_nil,
    false_implies, implies_true, and_true]
  decide

theorem sampleEmpty_cwdReachable : sampleEmpty.CwdReachable := .of_name rfl rfl rfl rfl

theorem steps_roundabout (n : Nat) (ending : Bool) :
    (roundabout n ending).steps = List.replicate n [Path.dot, Path.dot] ++ [[0x77, 0x64]] := by
  induction n with
  | zero => cases ending <;> rfl
  | succ n ih =>
      have hbytes : (roundabout (n + 1) ending).bytes = [Path.dot, Path.dot] ++
          Path.slash :: (roundabout n ending).bytes := by
        simp [roundabout, List.replicate_succ]
      rw [show roundabout (n + 1) ending = ⟨_⟩ from congrArg Path.mk hbytes, Path.steps_append_slash, ih]
      rfl

theorem isAbsolute_roundabout (n : Nat) (ending : Bool) : (roundabout (n + 1) ending).isAbsolute = false := by
  simp [roundabout, Path.isAbsolute, List.replicate_succ, Path.dot, Path.slash]

theorem length_roundabout (n : Nat) (ending : Bool) :
    (roundabout n ending).bytes.length = 3 * n + 2 + ending.toNat := by
  cases ending <;> simp [roundabout, Nat.mul_comm]

/-- Above the root there is nothing but the root. -/
theorem along_ups {jump : FileTree.Jump} (n : Nat) (slash : Bool) (rest : List Name) :
    sampleEmpty.along .user .follow jump (.within []) slash (List.replicate n [Path.dot, Path.dot] ++ rest) =
      sampleEmpty.along .user .follow jump (.within []) slash rest := by
  induction n with
  | zero => rfl
  | succ n ih =>
      rw [List.replicate_succ, List.cons_append, FileTree.along_dots rfl rfl]
      exact ih

theorem resolve_roundabout {n : Nat} {ending : Bool} (hlen : (roundabout (n + 1) ending).bytes.length < pathLimit) :
    sampleEmpty.resolve .user .follow (roundabout (n + 1) ending) =
      .ok (.found (.within [[0x77, 0x64]]) .emptyDirectory) := by
  have hnul : 0 ∉ (roundabout (n + 1) ending).bytes := by
    cases ending <;> simp [roundabout, Path.dot, Path.slash]
  have hne : (roundabout (n + 1) ending).bytes ≠ [] := by simp [roundabout]
  rw [FileTree.resolve_eq_follow hnul hne hlen, FileTree.origin, if_neg (by simp [isAbsolute_roundabout]),
    steps_roundabout]
  show sampleEmpty.along .user .follow _ (.within [[0x77, 0x64]]) _ (_ :: (List.replicate n _ ++ _)) = _
  rw [FileTree.along_dots rfl rfl]
  show sampleEmpty.along .user .follow _ (.within []) _ (List.replicate n _ ++ _) = _
  rw [along_ups, FileTree.along_directory rfl rfl ⟨by decide, by decide, by decide⟩ rfl]
  exact FileTree.along_nil rfl

theorem checkRoot_roundabout {n : Nat} {ending : Bool} (hlen : (roundabout (n + 1) ending).bytes.length < pathLimit) :
    checkRoot sampleEmpty (roundabout (n + 1) ending) = .ok () :=
  checkRoot_eq_ok_iff.mpr ⟨_, _, FileTree.lookUp_eq_ok_iff.mpr ⟨_, resolve_roundabout hlen⟩⟩

/-- The names of the absolute form: nothing is cancelled. -/
def roundaboutNames (n : Nat) : List Name := [0x77, 0x64] :: (List.replicate n [Path.dot, Path.dot] ++ [[0x77, 0x64]])

theorem component_roundaboutNames (n : Nat) : ∀ name ∈ roundaboutNames n, Path.Component name := by
  intro name hname
  simp only [roundaboutNames, List.mem_cons, List.mem_append, List.mem_replicate, List.not_mem_nil, or_false] at hname
  rcases hname with rfl | ⟨-, rfl⟩ | rfl <;> exact ⟨by decide, by decide, by decide⟩

theorem absolute_roundabout (n : Nat) (ending : Bool) :
    (roundabout (n + 1) ending).absolute sampleEmpty.cwdPath = .spell false (roundaboutNames (n + 1)) ending := by
  have hcwd : ∀ name ∈ sampleEmpty.cwd, Path.Component name := fun name hname =>
    .ofProper (sampleEmpty_cwdReachable.proper sampleEmpty_wellFormed name hname)
  have hnames : (roundabout (n + 1) ending).absoluteNames sampleEmpty.cwd = roundaboutNames (n + 1) := by
    rw [Path.absoluteNames, isAbsolute_roundabout, Path.components_eq, steps_roundabout]
    simp [roundaboutNames, sampleEmpty, Path.dot]
  have hend : (roundabout (n + 1) ending).endsWithSlash = ending := by
    cases ending <;> simp [roundabout, Path.endsWithSlash, Path.slash]
  rw [FileTree.cwdPath, Path.absolute_eq_spell _ hcwd, hnames, hend,
    Path.hasDoubleSlash_of_relative (isAbsolute_roundabout n ending)]

theorem length_spell_roundaboutNames (n : Nat) (ending : Bool) :
    (Path.spell false (roundaboutNames n) ending).bytes.length = 3 * n + 6 + ending.toNat := by
  rw [Path.spell, roundaboutNames, Path.intercalate_cons]
  cases ending <;> simp [Path.opening] <;> omega

/-- The absolute form has 4095 bytes, and 4096 with a slash at its end. -/
theorem absoluteRoot_roundabout (ending : Bool) :
    absoluteRoot sampleEmpty (roundabout 1363 ending) = .ok (.spell false (roundaboutNames 1363) ending) :=
  absoluteRoot_eq_ok_iff.mpr ⟨.inr rfl, (absolute_roundabout 1362 ending).symm⟩

theorem checkRoot_roundabout_both (ending : Bool) : checkRoot sampleEmpty (roundabout 1363 ending) = .ok () :=
  checkRoot_roundabout (by rw [length_roundabout]; cases ending <;> decide)

theorem lookUp_roundabout_short :
    sampleEmpty.lookUp (.spell false (roundaboutNames 1363) false) = .ok .emptyDirectory := by
  have hlen : (roundabout 1363 false).bytes.length < pathLimit := by rw [length_roundabout]; decide
  have hform : ((roundabout 1363 false).absolute sampleEmpty.cwdPath).bytes.length < pathLimit := by
    rw [absolute_roundabout, length_spell_roundaboutNames]
    decide
  have h := FileTree.resolve_absolute sampleEmpty_wellFormed sampleEmpty_cwdReachable (resolve_roundabout hlen) hform
  rw [absolute_roundabout] at h
  exact FileTree.lookUp_eq_ok_iff.mpr ⟨_, h⟩

theorem lookUp_roundabout_long :
    sampleEmpty.lookUp (.spell false (roundaboutNames 1363) true) = .error .nameTooLong := by
  have hnul := nul_notMem_of_checkRoot sampleEmpty_wellFormed sampleEmpty_cwdReachable (checkRoot_roundabout_both true)
  rw [absolute_roundabout] at hnul
  refine FileTree.lookUp_of_long hnul ?_
  rw [length_spell_roundaboutNames]
  decide

theorem discover_roundabout_short :
    (discover sampleEmpty (roundabout 1363 false) samplePattern .fail).1 = .ok ⟨[], 0⟩ := by
  have hlook := lookUp_roundabout_short
  have hlist : sampleEmpty.list (.spell false (roundaboutNames 1363) false) = .ok [] :=
    FileTree.list_eq_ok_iff.mpr ⟨_, rfl, hlook⟩
  have hvisits : Walk.ofRoot sampleEmpty (.spell false (roundaboutNames 1363) false) = [] := by
    rw [Walk.ofRoot, hlook]
    show Walk.visits _ _ _ (.directory _ []) = _
    rw [Walk.visits_of_listed hlist, List.map_nil]
    simp [Walk.inOrder]
  rw [discover_of_checkRoot (checkRoot_roundabout_both false) rfl, absolute_roundabout, hvisits]
  rfl

theorem discover_roundabout_long : (discover sampleEmpty (roundabout 1363 true) samplePattern .fail).1 =
    .error (.unreadableDirectory (.spell false (roundaboutNames 1363) true) .nameTooLong) := by
  rw [discover_of_checkRoot (checkRoot_roundabout_both true) rfl, absolute_roundabout,
    ofRoot_of_error lookUp_roundabout_long]
  rfl

/-- Without regard to its length, the absolute form of a root does not always lead to the directory of the root, and a
slash at its end can make a discovery fail. -/
theorem long_form_leads_nowhere :
    (¬ ∀ (tree : FileTree) (root abs : Path), tree.WellFormed → tree.CwdReachable → checkRoot tree root = .ok () →
        absoluteRoot tree root = .ok abs → tree.resolve .user .follow abs = tree.resolve .user .follow root) ∧
      ¬ ∀ (tree : FileTree) (root root' abs abs' : Path) (pattern : FilePattern) (policy : ReadErrorPolicy),
        tree.WellFormed → tree.CwdReachable → checkRoot tree root = .ok () → checkRoot tree root' = .ok () →
        absoluteRoot tree root = .ok abs → absoluteRoot tree root' = .ok abs' → abs.EqUpToSlash abs' →
          (∃ found, (discover tree root pattern policy).1 = .ok found ∧
              (discover tree root' pattern policy).1 = .ok found) ∨
            ∃ e e', (discover tree root pattern policy).1 = .error e ∧
              (discover tree root' pattern policy).1 = .error e' := by
  refine ⟨fun h => ?_, fun h => ?_⟩
  · have hsame := h sampleEmpty _ _ sampleEmpty_wellFormed sampleEmpty_cwdReachable (checkRoot_roundabout_both true)
      (absoluteRoot_roundabout true)
    rw [resolve_roundabout (by rw [length_roundabout]; decide)] at hsame
    have hlook := FileTree.lookUp_eq_ok_iff.mpr ⟨_, hsame⟩
    rw [lookUp_roundabout_long] at hlook
    cases hlook
  · rcases h sampleEmpty _ _ _ _ samplePattern .fail sampleEmpty_wellFormed sampleEmpty_cwdReachable
      (checkRoot_roundabout_both false) (checkRoot_roundabout_both true) (absoluteRoot_roundabout false)
      (absoluteRoot_roundabout true)
      (Path.eqUpToSlash_spell false (component_roundaboutNames _) (List.cons_ne_nil _ _)) with
      ⟨found, -, hlong⟩ | ⟨e, e', hshort, -⟩
    · rw [discover_roundabout_long] at hlong
      cases hlong
    · rw [discover_roundabout_short] at hshort
      cases hshort

end BuilderAudit
