import BuilderAudit.Proofs.Discovery.Walk

/-!
# The order of a walk

The visits of a walk come in the order of their paths, compared name by name: `a/x` comes before `a.java`, although its
text does not.

* `mergeSort_pairwise_lt` : sorted entries of distinct names are strictly increasing;
* `components_of_mem_visits` : all visits at a node lie below its path;
* `visits_pairwise`, `ofRoot_pairwise` : the visits are strictly increasing.
-/

namespace BuilderAudit

def Visit.path : Visit → Path
  | file path _ => path
  | unreadable path _ => path

/-- A visit comes before another one if its path does, compared name by name. -/
def Visit.Before (v w : Visit) : Prop := v.path.components < w.path.components

namespace Walk

variable {α : Type} {tree : FileTree}

/-- Entries of distinct names are strictly increasing when they are sorted by name. -/
theorem mergeSort_pairwise_lt {entries : List (Name × α)} (hnodup : (entries.map Prod.fst).Nodup) :
    (entries.mergeSort fun a b => decide (a.1 ≤ b.1)).Pairwise fun a b => a.1 < b.1 := by
  have hle := @List.pairwise_mergeSort (Name × α) (fun a b => decide (a.1 ≤ b.1))
    (fun a b c hab hbc => by
      rw [decide_eq_true_eq] at hab hbc ⊢
      exact List.le_trans hab hbc)
    (fun a b => by
      rw [Bool.or_eq_true, decide_eq_true_eq, decide_eq_true_eq]
      exact List.le_total a.1 b.1) entries
  have hne : (entries.mergeSort fun a b => decide (a.1 ≤ b.1)).Pairwise fun a b => a.1 ≠ b.1 :=
    List.pairwise_map.mp (((List.mergeSort_perm entries _).map Prod.fst).nodup_iff.mpr hnodup)
  refine hle.imp₂ (fun a b hab hne => ?_) hne
  rw [decide_eq_true_eq] at hab
  rcases List.le_iff_lt_or_eq.mp hab with hlt | heq
  · exact hlt
  · exact absurd heq hne

theorem lt_of_names {front a b : List Name} {n m : Name} (h : n < m) : front ++ n :: a < front ++ m :: b :=
  List.append_left_lt (List.cons_lt_cons_iff.mpr (Or.inl h))

theorem mem_entryVisits {path : Path} {entries : List (Name × Node)} {e : Name × List Visit}
    (he : e ∈ entryVisits tree path entries) :
    ∃ node, (e.1, node) ∈ entries ∧ e.2 = visits tree (path.join e.1) e.1 node := by
  rw [entryVisits_eq_map, List.mem_map] at he
  obtain ⟨entry, hentry, rfl⟩ := he
  exact ⟨entry.2, hentry, rfl⟩

/-- The visits at a node lie at its path or below. -/
theorem components_of_mem_visits {node : Node} (hwf : node.WellFormed) {path : Path} {name : Name} {v : Visit}
    (hv : v ∈ visits tree path name node) : ∃ rest, v.path.components = path.components ++ rest := by
  induction hwf generalizing path name with
  | file content mode =>
      rw [visits, List.mem_singleton] at hv
      exact ⟨[], by rw [hv, List.append_nil]; rfl⟩
  | link target =>
      rw [visits] at hv
      split at hv
      · rw [List.mem_singleton] at hv
        exact ⟨[], by rw [hv, List.append_nil]; rfl⟩
      · cases hv
  | @directory mode entries nodup proper nodes ih =>
      rw [visits] at hv
      split at hv
      · rw [List.mem_singleton] at hv
        exact ⟨[], by rw [hv, List.append_nil]; rfl⟩
      · obtain ⟨e, he, hv⟩ := mem_inOrder.mp hv
        obtain ⟨node, hnode, he2⟩ := mem_entryVisits he
        rw [he2] at hv
        obtain ⟨rest, hrest⟩ := ih _ hnode hv
        refine ⟨e.1 :: rest, ?_⟩
        rw [hrest, Path.components_join (proper _ hnode), List.append_assoc, List.singleton_append]

/-- The visits at a node are strictly increasing. -/
theorem visits_pairwise {node : Node} (hwf : node.WellFormed) (path : Path) (name : Name) :
    (visits tree path name node).Pairwise Visit.Before := by
  induction hwf generalizing path name with
  | file content mode => exact List.pairwise_singleton _ _
  | link target =>
      rw [visits]
      split
      · exact List.pairwise_singleton _ _
      · exact List.Pairwise.nil
  | @directory mode entries nodup proper nodes ih =>
      rw [visits]
      split
      · exact List.pairwise_singleton _ _
      · have hnodup : ((entryVisits tree path entries).map Prod.fst).Nodup := by
          rw [entryVisits_eq_map, List.map_map]
          exact nodup
        rw [inOrder, List.pairwise_flatMap]
        refine ⟨fun e he => ?_, (mergeSort_pairwise_lt hnodup).imp_of_mem fun {a b} ha hb hlt v hv w hw => ?_⟩
        · obtain ⟨node, hnode, he2⟩ := mem_entryVisits (List.mem_mergeSort.mp he)
          rw [he2]
          exact ih _ hnode _ _
        · obtain ⟨node, hnode, ha2⟩ := mem_entryVisits (List.mem_mergeSort.mp ha)
          obtain ⟨node', hnode', hb2⟩ := mem_entryVisits (List.mem_mergeSort.mp hb)
          rw [ha2] at hv
          rw [hb2] at hw
          obtain ⟨rest, hrest⟩ := components_of_mem_visits (nodes _ hnode) hv
          obtain ⟨rest', hrest'⟩ := components_of_mem_visits (nodes _ hnode') hw
          rw [Visit.Before, hrest, hrest', Path.components_join (proper _ hnode),
            Path.components_join (proper _ hnode'), List.append_assoc, List.append_assoc]
          exact lt_of_names hlt

theorem ofRoot_pairwise (ht : tree.WellFormed) (root : Path) : (ofRoot tree root).Pairwise Visit.Before := by
  unfold ofRoot
  split
  · next node hnode =>
    obtain ⟨-, spot, hspot, -⟩ := FileTree.of_lookUp_eq_ok hnode
    exact visits_pairwise (ht.at? hspot) root []
  · exact List.pairwise_singleton _ _

end Walk

end BuilderAudit
