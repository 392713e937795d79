import BuilderAudit.Proofs.Discovery.Listing

/-!
# Links that a discovery leaves out

A link counts as a file if a regular file is reached through it. Whoever asks may have to search directories on the way
that are closed to them, anywhere in the tree, and then the answer is no, without a failure. So a discovery that skips
nothing fails for directories that cannot be listed and for nothing else, and leaves out the links behind which a file
stands that permissions hide.

* `SameOrDenied` : permissions can only turn what a path leads to into a refusal (`sameOrDenied_along`,
  `sameOrDenied_resolve`);
* `FileTree.LeadsToFile` : permissions aside, a regular file stands at the end of a path;
* `isFile_iff` : whether a user reaches it;
* `discover_fail_succeeds_iff` : when a discovery that skips nothing succeeds;
* `discover_links` : the links among the entries that its walk finds.
-/

namespace BuilderAudit

/-! ## What permissions hide -/

/-- The first result is the second or a refusal. -/
def SameOrDenied {α : Type} (x y : Except FileError α) : Prop := x = y ∨ x = .error .permissionDenied

theorem SameOrDenied.same {α : Type} (x : Except FileError α) : SameOrDenied x x := .inl rfl

namespace FileTree

variable {tree : FileTree} {ending : Ending} {jump jump' : Spot → Bool → List Name → Except FileError Reached}
  {p : Path}

/-- A user is led along names like the administrator, up to the first directory that must not be searched. -/
theorem sameOrDenied_along
    (hjump : ∀ here slash names, SameOrDenied (jump here slash names) (jump' here slash names)) (here : Spot)
    (slash : Bool) (names : List Name) :
    SameOrDenied (along tree .user ending jump here slash names)
      (along tree .administrator ending jump' here slash names) := by
  induction names generalizing here with
  | nil =>
      rw [along, along]
      exact .same _
  | cons name rest ih =>
      rw [along, along]
      cases tree.at? here with
      | none => exact .same _
      | some node =>
          cases node with
          | file => exact .same _
          | link => exact .same _
          | directory mode entries =>
              by_cases hsearch : mode.search = true
              · simp only [Caller.may, hsearch, Bool.or_true, Bool.not_true, Bool.false_eq_true, if_false]
                split
                · exact ih here
                split
                · exact ih _
                split
                · exact .same _
                split
                · exact .same _
                cases entries.lookup name with
                | none => exact .same _
                | some inner =>
                    cases inner with
                    | file => exact .same _
                    | directory =>
                        dsimp only
                        split
                        · exact .same _
                        · exact ih _
                    | link =>
                        dsimp only
                        split
                        · exact .same _
                        · exact hjump _ _ _
              · rw [Bool.not_eq_true] at hsearch
                exact .inr (by simp [Caller.may, hsearch])

theorem sameOrDenied_follow (links : Nat) (here : Spot) (slash : Bool) (names : List Name) :
    SameOrDenied (follow tree .user ending links here slash names)
      (follow tree .administrator ending links here slash names) := by
  induction links generalizing here slash names with
  | zero => exact sameOrDenied_along (fun _ _ _ => .same _) here slash names
  | succ links ih => exact sameOrDenied_along ih here slash names

theorem sameOrDenied_resolve (tree : FileTree) (ending : Ending) (p : Path) :
    SameOrDenied (tree.resolve .user ending p) (tree.resolve .administrator ending p) := by
  unfold resolve
  split_ifs
  · exact .same _
  · exact .same _
  · exact .same _
  · exact sameOrDenied_follow ..

/-- Permissions aside, the path leads to a regular file. -/
def LeadsToFile (tree : FileTree) (p : Path) : Prop :=
  ∃ spot node, tree.resolve .administrator .follow p = .ok (.found spot node) ∧ node.isFile = true

/-- A regular file is reached exactly if it stands there and no directory on the way must not be searched. -/
theorem isFile_iff : tree.isFile p = true ↔ tree.LeadsToFile p ∧ tree.lookUp p ≠ .error .permissionDenied := by
  constructor
  · intro h
    obtain ⟨node, hlook, hnode⟩ := isFile_eq_true_iff.mp h
    obtain ⟨spot, huser⟩ := lookUp_eq_ok_iff.mp hlook
    refine ⟨?_, by rw [hlook]; nofun⟩
    rcases sameOrDenied_resolve tree .follow p with hsame | hdenied
    · exact ⟨spot, node, hsame.symm.trans huser, hnode⟩
    · rw [hdenied] at huser
      cases huser
  · rintro ⟨⟨spot, node, hadmin, hnode⟩, hallowed⟩
    rcases sameOrDenied_resolve tree .follow p with hsame | hdenied
    · exact isFile_eq_true_iff.mpr ⟨node, lookUp_eq_ok_iff.mpr ⟨spot, hsame.trans hadmin⟩, hnode⟩
    · exact absurd (lookUp_eq_error hdenied) hallowed

end FileTree

/-! ## Discoveries that skip nothing -/

variable {tree : FileTree} {root abs : Path} {pattern : FilePattern}

/-- A discovery that skips nothing succeeds as soon as all directories can be listed to which its walk comes. Links have
no part in that. -/
theorem discover_fail_succeeds_iff (ht : tree.WellFormed) (hcheck : checkRoot tree root = .ok ())
    (habs : absoluteRoot tree root = .ok abs) :
    (∃ found, (discover tree root pattern .fail).1 = .ok found) ↔
      ∀ names, Walk.Enters tree abs names → ∃ entries, tree.list (abs.joinAll names) = .ok entries := by
  have hmeets : ∀ {v}, v ∈ Walk.ofRoot tree abs ↔ Walk.Meets tree abs v :=
    Walk.mem_ofRoot_iff ht (isDirectory_of_absoluteRoot ht hcheck habs)
  constructor
  · rintro ⟨found, hfound⟩ names hentered
    obtain ⟨-, abs', habs', hvisits⟩ := discover_eq_ok_iff.mp hfound
    rw [habs, Except.ok.injEq] at habs'
    subst habs'
    cases hlist : tree.list (abs.joinAll names) with
    | ok entries => exact ⟨entries, rfl⟩
    | error cause =>
        have hvisit := hmeets.mpr (.unreadable hentered hlist)
        have hnone := (ofVisits_eq_ok_iff.mp hvisits).1 rfl _ hvisit
        cases hnone
  · intro hlisted
    refine ⟨_, discover_eq_ok_iff.mpr ⟨hcheck, abs, habs, ofVisits_eq_ok_iff.mpr ⟨fun _ v hv => ?_, rfl⟩⟩⟩
    cases hmeets.mp hv with
    | file => rfl
    | unreadable hentered hunlisted =>
        obtain ⟨entries, hlist⟩ := hlisted _ hentered
        rw [hlist] at hunlisted
        cases hunlisted

theorem Walk.Finds.proper (ht : tree.WellFormed) {names : List Name} {name : Name} {node : Node}
    (h : Walk.Finds tree root names name node) : ∀ n ∈ names ++ [name], ProperName n := by
  obtain ⟨hentered, entries, hlist, hentry⟩ := h
  have hname := (ht.of_list hlist hentry).1
  simpa [or_imp, forall_and] using ⟨hentered.proper ht, hname⟩

/-- The path of an entry tells which one it is. -/
theorem Walk.Finds.unique (ht : tree.WellFormed) {names names' : List Name} {name name' : Name} {node node' : Node}
    (h : Walk.Finds tree root names name node) (h' : Walk.Finds tree root names' name' node')
    (hpath : root.joinAll (names ++ [name]) = root.joinAll (names' ++ [name'])) : node = node' := by
  have hbelow := congrArg (Walk.below root) hpath
  rw [Walk.below_joinAll (h.proper ht), Walk.below_joinAll (h'.proper ht)] at hbelow
  obtain ⟨rfl, hname⟩ := List.append_inj' hbelow rfl
  obtain rfl := List.singleton_inj.mp hname
  obtain ⟨-, entries, hlist, hentry⟩ := h
  obtain ⟨-, entries', hlist', hentry'⟩ := h'
  rw [hlist, Except.ok.injEq] at hlist'
  rw [← hlist', hentry, Option.some.injEq] at hentry'
  exact hentry'

/-- A link is among the files of a discovery exactly if a file is reached through it. -/
theorem mem_files_link_iff (ht : tree.WellFormed) {policy : ReadErrorPolicy} {found : Discovery}
    (habs : absoluteRoot tree root = .ok abs) (hfound : (discover tree root pattern policy).1 = .ok found)
    {names : List Name} {name : Name} {target : Path} (hfinds : Walk.Finds tree abs names name (.link target))
    (haccepts : pattern.acceptsName name = true) :
    abs.joinAll (names ++ [name]) ∈ found.files ↔ tree.isFile (abs.joinAll (names ++ [name])) = true := by
  obtain ⟨-, rfl⟩ := absoluteRoot_eq_ok_iff.mp habs
  rw [mem_discovered_iff ht hfound]
  constructor
  · rintro ⟨names', name', node, hfinds', hnode | ⟨-, hfile⟩, -, hpath⟩
    · rw [← hfinds.unique ht hfinds' hpath] at hnode
      cases hnode
    · exact hfile
  · intro hfile
    exact ⟨names, name, _, hfinds, .inr ⟨rfl, hfile⟩, haccepts, rfl⟩

/-- **Under the policy to fail, a discovery fails for directories that it cannot list and not for links. Of the links
that match it lists those that lead to a file, permissions aside, unless access is denied on the way.** -/
theorem discover_links (tree : FileTree) (root abs : Path) (pattern : FilePattern) (ht : tree.WellFormed)
    (hcheck : checkRoot tree root = .ok ()) (habs : absoluteRoot tree root = .ok abs) :
    ((∃ found, (discover tree root pattern .fail).1 = .ok found) ↔
        ∀ names, Walk.Enters tree abs names → ∃ entries, tree.list (abs.joinAll names) = .ok entries) ∧
      ∀ found, (discover tree root pattern .fail).1 = .ok found →
        ∀ names name target, Walk.Finds tree abs names name (.link target) → pattern.acceptsName name = true →
          (abs.joinAll (names ++ [name]) ∈ found.files ↔
            tree.LeadsToFile (abs.joinAll (names ++ [name])) ∧
              tree.lookUp (abs.joinAll (names ++ [name])) ≠ .error .permissionDenied) := by
  refine ⟨discover_fail_succeeds_iff ht hcheck habs, fun found hfound names name target hfinds haccepts => ?_⟩
  rw [mem_files_link_iff ht habs hfound hfinds haccepts, FileTree.isFile_iff]

/-- A directory `/w/s` with a link `B` to the file `/w/l/B` in a directory that must not be searched. -/
def sampleLocked : FileTree where
  root := .directory .directory [([0x77], .directory .directory
    [([0x73], .directory .directory [([0x42], .link ⟨[0x2E, 0x2E, 0x2F, 0x6C, 0x2F, 0x42]⟩)]),
      ([0x6C], .directory ⟨false, false, false⟩ [([0x42], .file [0x40, 0x0A] .file)])])]
  cwd := [[0x77]]
  cwdRemoved := false

theorem sampleLocked_wellFormed : sampleLocked.WellFormed := by
  refine ⟨?_, fun _ => ⟨_, _, rfl⟩⟩
  simp only [sampleLocked, Node.wellFormed_directory_iff, List.forall_mem_cons, List.not_mem_nil, false_implies,
    implies_true, Node.wellFormed_file, Node.wellFormed_link_iff, and_true]
  decide

theorem sampleLocked_finds :
    Walk.Finds sampleLocked ⟨[0x2F, 0x77, 0x2F, 0x73]⟩ [] [0x42] (.link ⟨[0x2E, 0x2E, 0x2F, 0x6C, 0x2F, 0x42]⟩) :=
  ⟨.root, _, by cbv, by cbv⟩

theorem sampleLocked_leadsToFile : sampleLocked.LeadsToFile ⟨[0x2F, 0x77, 0x2F, 0x73, 0x2F, 0x42]⟩ :=
  ⟨.within [[0x77], [0x6C], [0x42]], .file [0x40, 0x0A] .file, by cbv, rfl⟩

theorem discover_sampleLocked : (discover sampleLocked ⟨[0x73]⟩ samplePattern .fail).1 = .ok ⟨[], 0⟩ := by cbv

/-- The link is left out, and access to its target is denied. -/
theorem sampleLocked_links :
    sampleLocked.WellFormed ∧ checkRoot sampleLocked ⟨[0x73]⟩ = .ok () ∧
      absoluteRoot sampleLocked ⟨[0x73]⟩ = .ok ⟨[0x2F, 0x77, 0x2F, 0x73]⟩ ∧
      (discover sampleLocked ⟨[0x73]⟩ samplePattern .fail).1 = .ok ⟨[], 0⟩ ∧
      sampleLocked.lookUp ⟨[0x2F, 0x77, 0x2F, 0x73, 0x2F, 0x42]⟩ = .error .permissionDenied := by
  have hcheck : checkRoot sampleLocked ⟨[0x73]⟩ = .ok () := by cbv
  have habs : absoluteRoot sampleLocked ⟨[0x73]⟩ = .ok ⟨[0x2F, 0x77, 0x2F, 0x73]⟩ := by cbv
  obtain ⟨-, hlinks⟩ := discover_links sampleLocked _ _ samplePattern sampleLocked_wellFormed hcheck habs
  have hlink := hlinks _ discover_sampleLocked [] [0x42] _ sampleLocked_finds (by cbv)
  refine ⟨sampleLocked_wellFormed, hcheck, habs, discover_sampleLocked, ?_⟩
  by_contra hallowed
  exact List.not_mem_nil (hlink.mpr ⟨sampleLocked_leadsToFile, hallowed⟩)

/-- A discovery that succeeds under the policy to fail has not always listed all links to files. -/
theorem success_hides_link :
    ¬ ∀ (tree : FileTree) (root abs : Path) (pattern : FilePattern) (found : Discovery), tree.WellFormed →
      absoluteRoot tree root = .ok abs → (discover tree root pattern .fail).1 = .ok found →
      ∀ names name target, Walk.Finds tree abs names name (.link target) → pattern.acceptsName name = true →
        tree.LeadsToFile (abs.joinAll (names ++ [name])) → abs.joinAll (names ++ [name]) ∈ found.files := by
  intro h
  have hlisted := h sampleLocked ⟨[0x73]⟩ _ samplePattern _ sampleLocked_wellFormed (by cbv) discover_sampleLocked
    [] [0x42] _ sampleLocked_finds (by cbv) sampleLocked_leadsToFile
  exact List.not_mem_nil hlisted

end BuilderAudit
