import BuilderAudit.Discovery

/-!
# When a discovery succeeds and why it fails

A root that is missing or no directory is found out first. What the walk meets can only make a discovery fail if
failures are not skipped; besides, a relative root has no absolute form if the current directory has been removed.

* `discover_eq_ok_iff` : when a discovery succeeds, and with what;
* `discover_of_checkRoot`, `ofVisits_skip`, `ofVisits_fail` : what comes of a root that passes its check, by the policy;
* `skipped_eq_zero_of_fail` : a discovery that may fail skips nothing;
* `discover_eq_error` : the three kinds of errors.
-/

namespace BuilderAudit

variable {tree : FileTree} {root abs : Path} {pattern : FilePattern} {policy : ReadErrorPolicy} {e : ScanError}

/-! ## Success -/

theorem checkRoot_eq_ok_iff :
    checkRoot tree root = .ok () ↔ ∃ mode entries, tree.lookUp root = .ok (.directory mode entries) := by
  unfold checkRoot
  cases tree.lookUp root with
  | error e => simp
  | ok node => cases node <;> simp [Node.isDirectory]

theorem absoluteRoot_eq_ok_iff :
    absoluteRoot tree root = .ok abs ↔
      (root.isAbsolute = true ∨ tree.cwdRemoved = false) ∧ abs = root.absolute tree.cwdPath := by
  unfold absoluteRoot
  split
  · next h =>
    rw [Bool.and_eq_true, Bool.not_eq_true'] at h
    simp [h.1, h.2]
  · next h =>
    rw [Bool.and_eq_true, Bool.not_eq_true', not_and, Bool.not_eq_true] at h
    rw [Except.ok.injEq, eq_comm]
    refine ⟨fun heq => ⟨?_, heq⟩, And.right⟩
    cases hroot : root.isAbsolute with
    | true => exact Or.inl rfl
    | false => exact Or.inr (h hroot)

theorem ofVisits_eq_ok_iff {visits : List Visit} {found : Discovery} :
    Discovery.ofVisits pattern policy visits = .ok found ↔
      (policy = .fail → ∀ v ∈ visits, v.failure? = none) ∧
        found = ⟨visits.filterMap (Visit.candidate? pattern), visits.countP fun v => v.failure?.isSome⟩ := by
  unfold Discovery.ofVisits
  split
  · next path cause hfirst =>
    simp only [reduceCtorEq, true_implies, false_iff, not_and]
    intro hnone
    rw [List.findSome?_eq_none_iff.mpr hnone] at hfirst
    cases hfirst
  · next hother =>
    rw [Except.ok.injEq, eq_comm]
    refine ⟨fun heq => ⟨fun hfail v hv => ?_, heq⟩, And.right⟩
    cases hfirst : visits.findSome? Visit.failure? with
    | none => exact List.findSome?_eq_none_iff.mp hfirst v hv
    | some failure => exact absurd hfirst (hother failure.1 failure.2 hfail)

theorem discover_eq_ok_iff {found : Discovery} :
    (discover tree root pattern policy).1 = .ok found ↔
      checkRoot tree root = .ok () ∧ ∃ abs, absoluteRoot tree root = .ok abs ∧
        Discovery.ofVisits pattern policy (Walk.ofRoot tree abs) = .ok found := by
  unfold discover
  cases checkRoot tree root with
  | error e => simp [bind, Except.bind]
  | ok _ =>
      cases absoluteRoot tree root with
      | error e => simp [bind, Except.bind]
      | ok abs =>
          simp only [bind, Except.bind, Except.ok.injEq, true_and, exists_eq_left']
          cases Discovery.ofVisits pattern policy (Walk.ofRoot tree abs) <;> simp

/-- A root that passes its check is walked. -/
theorem discover_of_checkRoot (hcheck : checkRoot tree root = .ok ()) (hcwd : tree.cwdRemoved = false) :
    (discover tree root pattern policy).1 =
      Discovery.ofVisits pattern policy (Walk.ofRoot tree (root.absolute tree.cwdPath)) := by
  have habs : absoluteRoot tree root = .ok (root.absolute tree.cwdPath) := absoluteRoot_eq_ok_iff.mpr ⟨Or.inr hcwd, rfl⟩
  unfold discover
  simp only [hcheck, habs, bind, Except.bind]
  cases Discovery.ofVisits pattern policy (Walk.ofRoot tree (root.absolute tree.cwdPath)) <;> rfl

theorem countP_failure (visits : List Visit) :
    (visits.countP fun v => v.failure?.isSome) = (visits.filterMap Visit.failure?).length :=
  List.length_filterMap_eq_countP.symm

theorem ofVisits_skip (visits : List Visit) :
    Discovery.ofVisits pattern .skip visits =
      .ok ⟨visits.filterMap (Visit.candidate? pattern), (visits.filterMap Visit.failure?).length⟩ :=
  ofVisits_eq_ok_iff.mpr ⟨nofun, by rw [countP_failure]⟩

/-- Unless failures are skipped, the first one decides. -/
theorem ofVisits_fail (visits : List Visit) :
    Discovery.ofVisits pattern .fail visits =
      match visits.filterMap Visit.failure? with
      | [] => .ok ⟨visits.filterMap (Visit.candidate? pattern), 0⟩
      | (path, cause) :: _ => .error (.unreadableDirectory path cause) := by
  unfold Discovery.ofVisits
  rw [← List.head?_filterMap, countP_failure]
  cases visits.filterMap Visit.failure? <;> rfl

theorem skipped_eq_zero_of_fail {found : Discovery} (h : (discover tree root pattern .fail).1 = .ok found) :
    found.skipped = 0 := by
  obtain ⟨-, abs, -, hvisits⟩ := discover_eq_ok_iff.mp h
  obtain ⟨hnone, rfl⟩ := ofVisits_eq_ok_iff.mp hvisits
  apply List.countP_eq_zero.mpr
  intro v hv
  rw [hnone rfl v hv]
  decide

/-! ## Failure -/

theorem isRootError_of_checkRoot (h : checkRoot tree root = .error e) : e.isRootError = true := by
  unfold checkRoot at h
  cases hlook : tree.lookUp root with
  | error cause =>
      rw [hlook] at h
      cases h
      rfl
  | ok node =>
      simp only [hlook] at h
      by_cases hdir : node.isDirectory = true
      · rw [if_pos hdir] at h
        cases h
      · rw [if_neg hdir] at h
        cases h
        rfl

theorem isRootError_of_checkRoots {roots : List Path} (h : roots.forM (checkRoot tree) = .error e) :
    e.isRootError = true := by
  induction roots with
  | nil => cases h
  | cons root roots ih =>
      rw [show (root :: roots).forM (checkRoot tree) = (checkRoot tree root >>= fun _ => roots.forM (checkRoot tree))
        from rfl] at h
      cases hcheck : checkRoot tree root with
      | error cause =>
          rw [hcheck] at h
          cases h
          exact isRootError_of_checkRoot hcheck
      | ok _ =>
          rw [hcheck] at h
          exact ih h

theorem absoluteRoot_eq_error (h : absoluteRoot tree root = .error e) :
    tree.cwdRemoved = true ∧ e = .unreadableFile root .notFound := by
  unfold absoluteRoot at h
  by_cases hremoved : (!root.isAbsolute && tree.cwdRemoved) = true
  · rw [if_pos hremoved] at h
    cases h
    exact ⟨(Bool.and_eq_true_iff.mp hremoved).2, rfl⟩
  · rw [if_neg hremoved] at h
    cases h

theorem ofVisits_eq_error {visits : List Visit} (h : Discovery.ofVisits pattern policy visits = .error e) :
    policy = .fail ∧ ∃ path cause, e = .unreadableDirectory path cause := by
  unfold Discovery.ofVisits at h
  split at h
  · next path cause _ =>
    cases h
    exact ⟨rfl, path, cause, rfl⟩
  · cases h

/-- A discovery fails for its root, for want of a current directory, or for a directory that cannot be listed. -/
theorem discover_eq_error (h : (discover tree root pattern policy).1 = .error e) :
    e.isRootError = true ∨ (tree.cwdRemoved = true ∧ e = .unreadableFile root .notFound) ∨
      (policy = .fail ∧ ∃ path cause, e = .unreadableDirectory path cause) := by
  unfold discover at h
  cases hcheck : checkRoot tree root with
  | error cause =>
      simp only [hcheck, bind, Except.bind, Except.error.injEq] at h
      exact Or.inl (h ▸ isRootError_of_checkRoot hcheck)
  | ok _ =>
      cases habs : absoluteRoot tree root with
      | error cause =>
          simp only [hcheck, habs, bind, Except.bind, Except.error.injEq] at h
          exact Or.inr (Or.inl (h ▸ absoluteRoot_eq_error habs))
      | ok abs =>
          cases hvisits : Discovery.ofVisits pattern policy (Walk.ofRoot tree abs) with
          | error cause =>
              simp only [hcheck, habs, hvisits, bind, Except.bind, Except.error.injEq] at h
              exact Or.inr (Or.inr (h ▸ ofVisits_eq_error hvisits))
          | ok found =>
              simp only [hcheck, habs, hvisits, bind, Except.bind] at h
              cases h

theorem discover_ne_refused {name : String} {path : Path} {reason : String} :
    (discover tree root pattern policy).1 ≠ .error (.refused name path reason) := by
  intro h
  rcases discover_eq_error h with hroot | ⟨-, hfile⟩ | ⟨-, _, _, hdir⟩
  · cases hroot
  · cases hfile
  · cases hdir

end BuilderAudit
