import BuilderAudit.Proofs.Scan.StillTree

/-!
# Discovery and loading agree

A discovery goes by what directories hold and by where links lead; loading follows the whole path of a file once more.
As long as the tree does not change, a file that a discovery lists is still there for the load: it may be that it must
not be read, that it is no text, or that its path is too long.

* `Unloadable` : the causes for which a listed file cannot be loaded;
* `lookUp_of_finds` : where the path of an entry leads that a walk has found;
* `unloadable_of_mem_files` : the files of a discovery;
* `Scanner.Unread` : the files that a run cannot read; `Scanner.Truthful` : what its log tells of them,
  `keepsTruthful_run`;
* `listed_files_load` : discoveries and whole runs.
-/

namespace BuilderAudit

/-- Why a file that a discovery lists cannot be loaded. -/
inductive Unloadable (path : Path) : FileError → Prop
  /-- The file must not be read, or the directory that holds it must not be searched. -/
  | denied : Unloadable path .permissionDenied
  /-- The file is not valid UTF-8. -/
  | notText : Unloadable path .notText
  /-- The path of the directory is short enough, but not that of the file. -/
  | tooLong (hlength : pathLimit ≤ path.bytes.length) : Unloadable path .nameTooLong

variable {σ : Type} {s : Scanner} {t : Transformer σ} {tree : FileTree} {path root : Path} {pattern : FilePattern}
  {policy : ReadErrorPolicy} {found : Discovery} {cause : FileError} {source : SourceFile}

/-! ## Files -/

theorem load_of_lookUp_error (h : tree.lookUp path = .error cause) : SourceFile.load tree path = .error cause := by
  unfold SourceFile.load FileTree.readText FileTree.read
  rw [h]
  rfl

/-- A regular file that is reached can only fail to load for its permissions or for what it holds. -/
theorem unloadable_of_lookUp_file {node : Node} (hfile : node.isFile = true) (h : tree.lookUp path = .ok node)
    (hload : SourceFile.load tree path = .error cause) : Unloadable path cause := by
  cases node with
  | directory => cases hfile
  | link => cases hfile
  | file content mode =>
      unfold SourceFile.load FileTree.readText FileTree.read at hload
      rw [h] at hload
      by_cases hmode : mode.read = true
      · simp only [bind, Except.bind, if_pos hmode, pure, Except.pure] at hload
        cases htext : Utf8.decode? content with
        | none =>
            rw [htext] at hload
            cases hload
            exact .notText
        | some text =>
            rw [htext] at hload
            cases hload
      · simp only [bind, Except.bind, if_neg hmode] at hload
        cases hload
        exact .denied

theorem path_of_load (h : SourceFile.load tree path = .ok source) : source.path = path := by
  unfold SourceFile.load at h
  cases htext : tree.readText path with
  | error cause =>
      rw [htext] at h
      cases h
  | ok text =>
      rw [htext] at h
      cases h
      rfl

/-- What a walk has found stands under its path, unless the path is too long or its directory must not be searched. -/
theorem lookUp_of_finds (ht : tree.WellFormed) {names : List Name} {name : Name} {node : Node}
    (h : Walk.Finds tree root names name node) (hnode : node.isLink = false) :
    tree.lookUp (root.joinAll (names ++ [name])) = .ok node ∨
      ∃ cause, tree.lookUp (root.joinAll (names ++ [name])) = .error cause ∧
        Unloadable (root.joinAll (names ++ [name])) cause := by
  obtain ⟨-, entries, hlist, hentry⟩ := h
  obtain ⟨mode, -, hdir⟩ := FileTree.list_eq_ok_iff.mp hlist
  obtain ⟨hnul, -, -⟩ := (FileTree.of_lookUp_eq_ok hdir).1
  have hname : ProperName name := (ht.of_list hlist hentry).1
  rw [Path.joinAll_concat]
  by_cases hlength : pathLimit ≤ ((root.joinAll names).join name).bytes.length
  · refine .inr ⟨.nameTooLong, FileTree.lookUp_eq_error ?_, .tooLong hlength⟩
    unfold FileTree.resolve
    rw [if_neg (Path.nul_notMem_join hnul hname.nul_notMem), if_neg, if_pos hlength]
    simpa [Path.isEmpty] using Path.bytes_join_ne_nil (root.joinAll names) hname.nonempty
  · rw [not_le] at hlength
    by_cases hsearch : mode.search = true
    · exact .inl (FileTree.lookUp_join hdir hname hlength hsearch hentry hnode)
    · rw [Bool.not_eq_true] at hsearch
      exact .inr ⟨_, FileTree.lookUp_join_of_unsearchable hdir hname hlength hsearch, .denied⟩

/-- A file that a discovery lists can only fail to load for these causes. -/
theorem unloadable_of_mem_files (ht : tree.WellFormed) (h : (discover tree root pattern policy).1 = .ok found)
    (hpath : path ∈ found.files) (hload : SourceFile.load tree path = .error cause) : Unloadable path cause := by
  obtain ⟨names, name, node, hfinds, hnode, -, rfl⟩ := (mem_discovered_iff ht h).mp hpath
  rcases hnode with hfile | ⟨-, hfile⟩
  · rcases lookUp_of_finds ht hfinds (Node.isLink_of_isFile hfile) with hlook | ⟨cause', hlook, hcause⟩
    · exact unloadable_of_lookUp_file hfile hlook hload
    · rw [load_of_lookUp_error hlook, Except.error.injEq] at hload
      exact hload ▸ hcause
  · -- A link is listed only if a file is reached through it.
    obtain ⟨reached, hlook, hreached⟩ := FileTree.isFile_eq_true_iff.mp hfile
    exact unloadable_of_lookUp_file hreached hlook hload

/-! ## Runs -/

/-- The transformer may tell of an event itself. -/
def Transformer.Tells (t : Transformer σ) (event : Log.Event) : Prop :=
  ∃ source found destination tree x, event ∈ (t.transform source found destination tree x).events

/-- A discovery of one of the roots lists the file. -/
def Scanner.Lists (s : Scanner) (tree : FileTree) (path : Path) : Prop :=
  ∃ root ∈ s.config.sourceRoots, ∃ found,
    (discover tree root s.pattern s.config.onReadError).1 = .ok found ∧ path ∈ found.files

/-- The file is listed and cannot be loaded. -/
def Scanner.Unread (s : Scanner) (tree : FileTree) (path : Path) (cause : FileError) : Prop :=
  s.Lists tree path ∧ SourceFile.load tree path = .error cause

theorem Scanner.Unread.unloadable (ht : tree.WellFormed) (h : s.Unread tree path cause) : Unloadable path cause := by
  obtain ⟨⟨root, -, found, hfound, hpath⟩, hload⟩ := h
  exact unloadable_of_mem_files ht hfound hpath hload

/-- The tree is as at the start, and the files of which the log tells since then that they were passed over cannot be
loaded, unless the transformer tells of them. -/
structure Scanner.Truthful (s : Scanner) (t : Transformer σ) (start state : RunState σ) : Prop where
  tree : state.tree = start.tree
  log : ∀ path cause, .fileSkipped path cause ∈ state.log →
    .fileSkipped path cause ∈ start.log ∨ t.Tells (.fileSkipped path cause) ∨ s.Unread start.tree path cause

/-- If the error is that a file cannot be read, then the file is a listed one that cannot be loaded, or it is a relative
root without a current directory. -/
def Scanner.Blames (s : Scanner) (tree : FileTree) (e : ScanError) : Prop :=
  ∀ path cause, e = .unreadableFile path cause →
    s.Unread tree path cause ∨ (tree.cwdRemoved = true ∧ path ∈ s.config.sourceRoots ∧ cause = .notFound)

/-- A part of a run that keeps its log truthful, and its error. -/
def Scanner.KeepsTruthful {α : Type} (s : Scanner) (t : Transformer σ) (start : RunState σ) (part : Run σ α) : Prop :=
  Run.Keeps (s.Truthful t start) (fun e state => s.Truthful t start state ∧ s.Blames start.tree e) part

variable {start state final : RunState σ} {events : List Log.Event}

/-- A log stays truthful if what further events tell of files that were passed over is true. -/
theorem Scanner.Truthful.append (h : s.Truthful t start state) (htree : final.tree = start.tree)
    (hlog : final.log = state.log ++ events)
    (hevents : ∀ path cause, .fileSkipped path cause ∈ events →
      t.Tells (.fileSkipped path cause) ∨ s.Unread start.tree path cause) : s.Truthful t start final := by
  refine ⟨htree, fun path cause hmem => ?_⟩
  rw [hlog, List.mem_append] at hmem
  rcases hmem with hmem | hmem
  · exact h.log path cause hmem
  · exact .inr (hevents path cause hmem)

theorem keepsTruthful_scanFile (ht : t.KeepsTree) (hpath : s.Lists start.tree path) :
    s.KeepsTruthful t start (s.scanFile t path) := by
  intro state hstate
  have htree := hstate.tree
  have hstep := s.scanFile_step t path state
  generalize (s.scanFile t path).exec state = result at hstep ⊢
  cases hstep with
  | skipped cause hload _ =>
      refine Scanner.Truthful.append hstate htree rfl ?_
      intro path' cause' hmem
      rw [List.mem_singleton, Log.Event.fileSkipped.injEq] at hmem
      obtain ⟨rfl, rfl⟩ := hmem
      exact .inr ⟨hpath, htree ▸ hload⟩
  | unreadable cause hload _ =>
      refine ⟨hstate, fun path' cause' heq => .inl ?_⟩
      cases heq
      exact ⟨hpath, htree ▸ hload⟩
  | unmarked =>
      refine Scanner.Truthful.append hstate htree rfl ?_
      intro path' cause' hmem
      simp at hmem
  | accepted source hload hmarked _ =>
      refine Scanner.Truthful.append hstate ((ht ..).trans htree) (List.append_assoc ..) ?_
      intro path' cause' hmem
      rw [List.mem_append, List.mem_singleton] at hmem
      exact .inl ⟨_, _, _, _, _, hmem.resolve_left nofun⟩
  | refused source reason hload hmarked _ =>
      refine ⟨hstate.append ((ht ..).trans htree) (List.append_assoc ..) ?_, nofun⟩
      intro path' cause' hmem
      rw [List.mem_append, List.mem_singleton] at hmem
      exact .inl ⟨_, _, _, _, _, hmem.resolve_left nofun⟩

theorem fileSkipped_notMem_discover : .fileSkipped path cause ∉ (discover tree root pattern policy).2 := by
  have hevents : ∀ visits, .fileSkipped path cause ∉ Discovery.events pattern policy visits := by
    intro visits hmem
    obtain ⟨v, -, hv⟩ := List.mem_filterMap.mp hmem
    cases v with
    | unreadable => cases hv
    | file path name =>
        rw [Visit.event?] at hv
        by_cases hname : pattern.acceptsName name = true
        · rw [if_pos hname] at hv
          cases hv
        · rw [if_neg hname] at hv
          cases hv
  unfold discover
  split
  · exact List.not_mem_nil
  · next abs _ =>
    simp only
    cases Discovery.ofVisits pattern policy (Walk.ofRoot tree abs) with
    | error e => exact hevents _
    | ok found =>
        intro hmem
        rw [List.mem_append, List.mem_singleton] at hmem
        rcases hmem with hmem | hmem
        · exact hevents _ hmem
        · cases hmem

theorem blames_of_discover {e : ScanError} (hroot : root ∈ s.config.sourceRoots)
    (h : (discover tree root pattern policy).1 = .error e) : s.Blames tree e := by
  rintro path cause rfl
  rcases discover_eq_error h with hkind | ⟨hcwd, heq⟩ | ⟨-, _, _, heq⟩
  · cases hkind
  · cases heq
    exact .inr ⟨hcwd, hroot, rfl⟩
  · cases heq

theorem keepsTruthful_scanRoot (ht : t.KeepsTree) (hroot : root ∈ s.config.sourceRoots) :
    s.KeepsTruthful t start (s.scanRoot t root) := by
  intro state hstate
  have hopened : ∀ path cause, .fileSkipped path cause ∈
      [.rootStarted root] ++ (discover state.tree root s.pattern s.config.onReadError).2 →
      t.Tells (.fileSkipped path cause) ∨ s.Unread start.tree path cause := by
    intro path cause hmem
    rw [List.mem_append, List.mem_singleton] at hmem
    exact absurd (hmem.resolve_left nofun) fileSkipped_notMem_discover
  rw [Scanner.scanRoot_eq, Run.exec_bind, Scanner.exec_openRoot]
  rcases hdiscover : discover state.tree root s.pattern s.config.onReadError with ⟨e | found, events⟩
  · rw [hdiscover] at hopened
    refine ⟨hstate.append hstate.tree (List.append_assoc ..) hopened, ?_⟩
    exact blames_of_discover hroot (hstate.tree ▸ congrArg Prod.fst hdiscover)
  · rw [hdiscover] at hopened
    have hfiles : s.KeepsTruthful t start (found.files.forM (s.scanFile t)) :=
      Run.Keeps.forM fun path hpath =>
        keepsTruthful_scanFile ht ⟨root, hroot, found, hstate.tree ▸ congrArg Prod.fst hdiscover, hpath⟩
    exact hfiles _ (hstate.append hstate.tree (List.append_assoc ..) hopened)

/-- A whole run keeps its log truthful, and its error. -/
theorem keepsTruthful_run (ht : t.KeepsTree) (start : RunState σ) : s.KeepsTruthful t start (s.run t) := by
  intro state hstate
  have hloop : s.KeepsTruthful t start (s.config.sourceRoots.forM (s.scanRoot t)) :=
    Run.Keeps.forM fun root hroot => keepsTruthful_scanRoot ht hroot
  have hstarted : s.Truthful t start (s.started state) := ⟨hstate.tree, hstate.log⟩
  rw [Scanner.exec_run]
  cases hcheck : s.config.sourceRoots.forM (checkRoot state.tree) with
  | error e =>
      refine ⟨hstarted, fun path cause heq => ?_⟩
      have hkind := isRootError_of_checkRoots hcheck
      rw [heq] at hkind
      cases hkind
  | ok _ =>
      rcases hexec : (s.config.sourceRoots.forM (s.scanRoot t)).exec (s.started state) with ⟨e | _, last⟩
      · exact hloop.error hstarted hexec
      · have hlast := hloop.ok hstarted hexec
        exact hlast.append hlast.tree rfl (by simp)

/-- **As long as the tree does not change, every file that a discovery lists can be loaded, unless it must not be read,
is no text or has too long a path, and these are the only causes for which a run stops at a file or passes it over.** -/
theorem listed_files_load (s : Scanner) (t : Transformer σ) (state : RunState σ) (ht : state.tree.WellFormed)
    (hkeeps : t.KeepsTree) :
    (∀ root pattern policy found, (discover state.tree root pattern policy).1 = .ok found → ∀ path ∈ found.files,
        (∃ source, SourceFile.load state.tree path = .ok source ∧ source.path = path) ∨
          ∃ cause, SourceFile.load state.tree path = .error cause ∧ Unloadable path cause) ∧
      (∀ path cause, ((s.run t).exec state).1 = .error (.unreadableFile path cause) →
        (s.Unread state.tree path cause ∧ Unloadable path cause) ∨
          (state.tree.cwdRemoved = true ∧ path ∈ s.config.sourceRoots ∧ cause = .notFound)) ∧
      ∀ path cause, .fileSkipped path cause ∈ ((s.run t).exec state).2.log →
        .fileSkipped path cause ∈ state.log ∨ t.Tells (.fileSkipped path cause) ∨
          (s.Unread state.tree path cause ∧ Unloadable path cause) := by
  have hrun := keepsTruthful_run (s := s) hkeeps state state ⟨rfl, fun _ _ hmem => .inl hmem⟩
  have hunread : ∀ {path cause}, s.Unread state.tree path cause →
      s.Unread state.tree path cause ∧ Unloadable path cause := fun h => ⟨h, h.unloadable ht⟩
  refine ⟨fun root pattern policy found hfound path hpath => ?_, fun path cause herror => ?_, fun path cause hmem => ?_⟩
  · cases hload : SourceFile.load state.tree path with
    | ok source => exact .inl ⟨source, rfl, path_of_load hload⟩
    | error cause => exact .inr ⟨cause, rfl, unloadable_of_mem_files ht hfound hpath hload⟩
  · rcases hexec : (s.run t).exec state with ⟨e | report, final⟩
    · rw [hexec] at hrun herror
      cases herror
      exact (hrun.2 path cause rfl).imp_left hunread
    · rw [hexec] at herror
      cases herror
  · have htruthful : s.Truthful t state ((s.run t).exec state).2 := by
      rcases hexec : (s.run t).exec state with ⟨e | report, final⟩
      · rw [hexec] at hrun
        exact hrun.1
      · rw [hexec] at hrun
        exact hrun
    exact (htruthful.log path cause hmem).imp_right fun h => h.imp_right hunread

/-- The files of the sample, one of which is listed although it is no text. -/
theorem sampleFound_load :
    sampleTree.WellFormed ∧ Transformer.idle.KeepsTree ∧
      (discover sampleTree ⟨[0x73]⟩ samplePattern .skip).1 = .ok sampleFound ∧
      SourceFile.load sampleTree ⟨[0x2F, 0x77, 0x2F, 0x73, 0x2F, 0x42, 0x2E]⟩ = .error .notText ∧
      ∀ path ∈ sampleFound.files,
        (∃ source, SourceFile.load sampleTree path = .ok source ∧ source.path = path) ∨
          ∃ cause, SourceFile.load sampleTree path = .error cause ∧ Unloadable path cause :=
  ⟨sampleTree_wellFormed, idle_keepsTree, discover_sampleTree, by cbv, fun path hpath =>
    (listed_files_load sampleScanner .idle ⟨sampleTree, (), [], Report.start []⟩ sampleTree_wellFormed idle_keepsTree).1
      _ _ _ _ discover_sampleTree path hpath⟩

end BuilderAudit
