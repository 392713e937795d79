import BuilderAudit.FileTree.Edit
import BuilderAudit.Proofs.FileTree.Following
import BuilderAudit.Text.Basic

/-!
# Changes keep file trees well-formed

Every change of a tree is made in one place that a path leads to, or beside which it finds room for one more name. Names
that a path leads to are proper, so that no change spoils a directory, and the current directory goes only when this is
written down.

* `Reached.Sound` : what a path leads to is there, or there is room for it (`resolve_sound`);
* `Node.WellFormed.alter`, `Node.isDirectoryAt_alter` : a node with one place changed;
* `write_eq_ok` : all that writing does;
* `wellFormed_write`, `wellFormed_apply` : the tree after a change;
* `wellFormed_of_edits` : the tree after any number of them.
-/

namespace BuilderAudit

/-- What a path leads to is there, or there is room for it under a proper name. -/
def Reached.Sound (tree : FileTree) : Reached → Prop
  | .found spot node => tree.at? spot = some node
  | .missing spot name =>
    ProperName name ∧ ∃ mode entries, tree.at? spot = some (.directory mode entries) ∧ entries.lookup name = none

namespace FileTree

variable {tree : FileTree} {caller : Caller} {ending : Ending} {here : Spot} {slash : Bool} {names : List Name}
  {reached : Reached}

theorem along_sound (ht : tree.WellFormed) {jump : Spot → Bool → List Name → Except FileError Reached}
    (hjump : ∀ here slash names, (∀ name ∈ names, Path.Piece name) → jump here slash names = .ok reached →
      reached.Sound tree)
    (hnames : ∀ name ∈ names, Path.Piece name) (h : tree.along caller ending jump here slash names = .ok reached) :
    reached.Sound tree := by
  induction names generalizing here with
  | nil =>
      obtain ⟨_, hhere, rfl⟩ := along_nil_eq_ok h
      exact hhere
  | cons name rest ih =>
      rw [List.forall_mem_cons] at hnames
      obtain ⟨mode, entries, hhere, -, hstep⟩ := along_cons_eq_ok h
      cases hstep with
      | dot hnext => exact ih hnames.2 hnext
      | dots hnext => exact ih hnames.2 hnext
      | missing hname hl _ _ hreached =>
          subst hreached
          refine ⟨⟨hnames.1.nonempty, hnames.1.slash_notMem, hnames.1.nul_notMem, hname.ne_dot, hname.ne_dots, ?_⟩, ?_⟩
          · exact hname.length_le
          · exact ⟨mode, entries, hhere, hl⟩
      | directory _ _ hnext => exact ih hnames.2 hnext
      | file _ hl _ _ hreached =>
          subst hreached
          exact at?_below hhere hl
      | link _ hl hnext =>
          have htarget := Node.wellFormed_link_iff.mp ((ht.at? hhere).entry hl).2
          exact hjump _ _ _ (List.forall_mem_append.mpr ⟨Path.piece_of_mem_steps htarget, hnames.2⟩) hnext
      | kept _ hl _ hreached =>
          subst hreached
          exact at?_below hhere hl

theorem follow_sound (ht : tree.WellFormed) {links : Nat} (hnames : ∀ name ∈ names, Path.Piece name)
    (h : tree.follow caller ending links here slash names = .ok reached) : reached.Sound tree := by
  induction links generalizing here slash names with
  | zero => exact along_sound ht (fun _ _ _ _ h => by cases h) hnames h
  | succ links ih => exact along_sound ht (fun _ _ _ hnames h => ih hnames h) hnames h

theorem resolve_sound (ht : tree.WellFormed) {p : Path} (h : tree.resolve caller ending p = .ok reached) :
    reached.Sound tree := by
  unfold resolve at h
  split at h
  · cases h
  · next hnul =>
    split at h
    · cases h
    · split at h
      · cases h
      · exact follow_sound ht (Path.piece_of_mem_steps hnul) h

end FileTree

/-! ## One place changed -/

namespace Node

variable {name : Name} {f : Option Node → Option Node} {entries : List (Name × Node)}

theorem mem_alterEntry {e : Name × Node} (h : e ∈ alterEntry name f entries) :
    e ∈ entries ∨ e.1 = name ∧ (f none = some e.2 ∨ ∃ node, (name, node) ∈ entries ∧ f (some node) = some e.2) := by
  induction entries with
  | nil =>
      simp only [alterEntry, Option.mem_toList, Option.map_eq_some_iff] at h
      obtain ⟨node, hf, rfl⟩ := h
      exact Or.inr ⟨rfl, Or.inl hf⟩
  | cons first entries ih =>
      obtain ⟨n, node⟩ := first
      rw [alterEntry] at h
      by_cases hn : name = n
      · subst hn
        rw [if_pos rfl, List.mem_append] at h
        rcases h with h | h
        · simp only [Option.mem_toList, Option.map_eq_some_iff] at h
          obtain ⟨node', hf, rfl⟩ := h
          exact Or.inr ⟨rfl, Or.inr ⟨node, List.mem_cons_self, hf⟩⟩
        · exact Or.inl (List.mem_cons_of_mem _ h)
      · rw [if_neg hn, List.mem_cons] at h
        rcases h with rfl | h
        · exact Or.inl List.mem_cons_self
        · rcases ih h with h | ⟨he, h | ⟨inner, hinner, h⟩⟩
          · exact Or.inl (List.mem_cons_of_mem _ h)
          · exact Or.inr ⟨he, Or.inl h⟩
          · exact Or.inr ⟨he, Or.inr ⟨inner, List.mem_cons_of_mem _ hinner, h⟩⟩

theorem nodup_alterEntry (h : (entries.map Prod.fst).Nodup) : ((alterEntry name f entries).map Prod.fst).Nodup := by
  induction entries with
  | nil =>
      rw [alterEntry]
      cases f none with
      | none => exact List.nodup_nil
      | some node => exact List.pairwise_singleton _ _
  | cons first entries ih =>
      obtain ⟨n, node⟩ := first
      rw [List.map_cons, List.nodup_cons] at h
      rw [alterEntry]
      by_cases hn : name = n
      · subst hn
        rw [if_pos rfl]
        cases f (some node) with
        | none => exact h.2
        | some node' => exact List.nodup_cons.mpr h
      · rw [if_neg hn, List.map_cons, List.nodup_cons]
        refine ⟨fun hmem => ?_, ih h.2⟩
        obtain ⟨e, he, rfl⟩ := List.mem_map.mp hmem
        rcases mem_alterEntry he with he | ⟨he, -⟩
        · exact h.1 (List.mem_map.mpr ⟨e, he, rfl⟩)
        · exact hn he.symm

theorem lookup_toList_append (name other : Name) (node? : Option Node) (entries : List (Name × Node)) :
    ((node?.map (name, ·)).toList ++ entries).lookup other =
      if other = name then node?.or (entries.lookup name) else entries.lookup other := by
  cases node? with
  | none =>
      by_cases ho : other = name
      · subst ho
        simp
      · simp [ho]
  | some node =>
      by_cases ho : other = name
      · subst ho
        simp
      · simp [List.lookup_cons, beq_eq_false_iff_ne.mpr ho, ho]

theorem lookup_alterEntry (h : (entries.map Prod.fst).Nodup) (other : Name) :
    (alterEntry name f entries).lookup other =
      if other = name then f (entries.lookup name) else entries.lookup other := by
  induction entries with
  | nil =>
      rw [alterEntry, ← List.append_nil (Option.toList _), lookup_toList_append, List.lookup_nil, List.lookup_nil,
        Option.or_none]
  | cons first entries ih =>
      obtain ⟨n, node⟩ := first
      rw [List.map_cons, List.nodup_cons] at h
      rw [alterEntry]
      by_cases hn : name = n
      · subst hn
        have hnone : entries.lookup name = none :=
          List.lookup_eq_none_iff.mpr fun e he => bne_iff_ne.mpr fun heq =>
            h.1 (List.mem_map.mpr ⟨e, he, heq.symm⟩)
        rw [if_pos rfl, lookup_toList_append, hnone, Option.or_none, List.lookup_cons_self]
        by_cases ho : other = name
        · rw [if_pos ho, if_pos ho]
        · rw [if_neg ho, if_neg ho, List.lookup_cons, beq_eq_false_iff_ne.mpr ho]
      · rw [if_neg hn, List.lookup_cons, ih h.2, List.lookup_cons, beq_eq_false_iff_ne.mpr hn, List.lookup_cons]
        by_cases ho : other = n
        · subst ho
          simp [Ne.symm hn]
        · rw [beq_eq_false_iff_ne.mpr ho]

/-- A node that `alter` leads to is well-formed again if the change makes it so. -/
theorem WellFormed.alter (hf : ∀ node?, (∀ node ∈ node?, WellFormed node) → ∀ node ∈ f node?, WellFormed node)
    {names : List Name} (hnames : ∀ n ∈ names, ProperName n) {node? : Option Node}
    (h : ∀ node ∈ node?, WellFormed node) :
    ∀ node ∈ Node.alter f names node?, WellFormed node := by
  induction names generalizing node? with
  | nil => exact hf node? h
  | cons name names ih =>
      rw [List.forall_mem_cons] at hnames
      cases node? with
      | none => exact h
      | some node =>
          cases node with
          | file => exact h
          | link => exact h
          | directory mode entries =>
              intro _ heq
              obtain rfl := Option.some.inj heq
              obtain ⟨hnodup, hproper, hnodes⟩ := wellFormed_directory_iff.mp (h _ rfl)
              refine .directory (nodup_alterEntry hnodup) (fun e he => ?_) (fun e he => ?_)
              · rcases mem_alterEntry he with he | ⟨he, -⟩
                · exact hproper e he
                · exact he ▸ hnames.1
              · rcases mem_alterEntry he with he | ⟨-, he | ⟨inner, hinner, he⟩⟩
                · exact hnodes e he
                · exact ih hnames.2 (by simp) e.2 he
                · refine ih hnames.2 ?_ e.2 he
                  rintro _ ⟨⟩
                  exact hnodes _ hinner

def IsDirectoryAt (node : Node) (names : List Name) : Prop :=
  ∃ mode entries, node.get? names = some (.directory mode entries)

/-- A directory stays a directory unless the change is made on the way to it. -/
theorem isDirectoryAt_alter {node : Node} (hwf : node.WellFormed) {names other : List Name}
    (h : node.IsDirectoryAt other)
    (hf : ∀ rest inner, other = names ++ rest → node.get? names = some inner → inner.IsDirectoryAt rest →
      ∃ inner', f (some inner) = some inner' ∧ inner'.IsDirectoryAt rest) :
    ∃ node', alter f names (some node) = some node' ∧ node'.IsDirectoryAt other := by
  induction names generalizing node other with
  | nil => exact hf other node rfl (get?_nil node) h
  | cons name names ih =>
      cases node with
      | file content mode =>
          obtain ⟨_, _, hdir⟩ := h
          cases other <;> cases hdir
      | link target =>
          obtain ⟨_, _, hdir⟩ := h
          cases other <;> cases hdir
      | directory mode entries =>
          refine ⟨_, rfl, ?_⟩
          cases other with
          | nil => exact ⟨_, _, get?_nil _⟩
          | cons first other =>
              obtain ⟨m, es, hdir⟩ := h
              rw [get?_cons, entry?_directory, Option.bind_eq_some_iff] at hdir
              obtain ⟨inner, hl, hinner⟩ := hdir
              have hlookup := @lookup_alterEntry name (alter f names) entries hwf.nodup first
              by_cases hfirst : first = name
              · subst hfirst
                obtain ⟨inner', halter, hinner'⟩ := ih (hwf.entry hl).2 ⟨m, es, hinner⟩ fun rest last hrest hlast =>
                  hf rest last (by rw [hrest]; rfl) (by rw [get?_cons, entry?_directory, hl]; exact hlast)
                rw [if_pos rfl, hl, halter] at hlookup
                obtain ⟨m', es', hget⟩ := hinner'
                exact ⟨m', es', by rw [get?_cons, entry?_directory, hlookup]; exact hget⟩
              · rw [if_neg hfirst, hl] at hlookup
                exact ⟨m, es, by rw [get?_cons, entry?_directory, hlookup]; exact hinner⟩

theorem isDirectoryAt_withMode {node : Node} (mode : Mode) {names : List Name} (h : node.IsDirectoryAt names) :
    (FileTree.withMode mode node).IsDirectoryAt names := by
  obtain ⟨m, es, hdir⟩ := h
  cases node with
  | file => exact ⟨m, es, by cases names <;> cases hdir⟩
  | link => exact ⟨m, es, hdir⟩
  | directory mode' entries =>
      cases names with
      | nil => exact ⟨mode, entries, get?_nil _⟩
      | cons name names =>
          rw [get?_cons] at hdir
          exact ⟨m, es, (get?_cons ..).trans hdir⟩

end Node

namespace FileTree

variable {tree tree' : FileTree} {caller : Caller} {p : Path} {names : List Name} {name : Name}

/-- A tree is well-formed again behind a change of one place. -/
theorem WellFormed.alter (ht : tree.WellFormed) {f : Option Node → Option Node} (hnames : ∀ n ∈ names, ProperName n)
    (hf : ∀ node?, (∀ node ∈ node?, Node.WellFormed node) → ∀ node ∈ f node?, Node.WellFormed node)
    (hcwd : tree.cwdRemoved = false → ∀ rest inner, tree.cwd = names ++ rest → tree.root.get? names = some inner →
      inner.IsDirectoryAt rest → ∃ inner', f (some inner) = some inner' ∧ inner'.IsDirectoryAt rest) :
    (tree.alter names f).WellFormed := by
  have hroot : ∀ node ∈ some tree.root, Node.WellFormed node := by
    rintro _ ⟨⟩
    exact ht.root
  refine ⟨?_, fun hremoved => ?_⟩
  · unfold FileTree.alter
    cases halter : Node.alter f names (some tree.root) with
    | none => exact ht.root
    | some root => exact Node.WellFormed.alter hf hnames hroot root halter
  · obtain ⟨root, halter, hdir⟩ := Node.isDirectoryAt_alter ht.root (ht.cwd hremoved) (hcwd hremoved)
    show (((Node.alter f names (some tree.root)).getD tree.root).IsDirectoryAt tree.cwd)
    rw [halter]
    exact hdir

/-- There is room for something new beside what a path leads to. -/
theorem WellFormed.add (ht : tree.WellFormed) (h : (Reached.missing (.within names) name).Sound tree) {node : Node}
    (hnode : node.WellFormed) : (tree.alter (names ++ [name]) fun _ => some node).WellFormed := by
  obtain ⟨hname, mode, entries, hdir, hl⟩ := h
  have hget : tree.root.get? names = some (.directory mode entries) := hdir
  refine ht.alter ?_ ?_ fun _ rest inner _ hinner _ => ?_
  · exact List.forall_mem_append.mpr ⟨(ht.root.get? hget).1, List.forall_mem_singleton.mpr hname⟩
  · rintro node? - _ ⟨⟩
    exact hnode
  · rw [Node.get?_append, hget, Option.bind_some, Node.get?_singleton, Node.entry?_directory, hl] at hinner
    cases hinner

/-- What a path leads to can be given something else that is no directory in its place, if it is none. -/
theorem WellFormed.replaceFile (ht : tree.WellFormed) {content content' : List UInt8} {mode mode' : Mode}
    (h : (Reached.found (.within names) (.file content mode)).Sound tree) :
    (tree.alter names fun _ => some (.file content' mode')).WellFormed := by
  have hget : tree.root.get? names = some (.file content mode) := h
  refine ht.alter (ht.root.get? hget).1 ?_ fun _ rest inner _ hinner hdir => ?_
  · rintro node? - _ ⟨⟩
    exact .file content' mode'
  · rw [hget] at hinner
    cases hinner
    obtain ⟨_, _, hdir⟩ := hdir
    cases rest <;> cases hdir

/-! ## The changes -/

theorem wellFormed_addDirectory (ht : tree.WellFormed) (h : tree.addDirectory p = .ok tree') : tree'.WellFormed := by
  obtain ⟨reached, hr, h⟩ := bind_eq_ok_iff.mp h
  have hsound := resolve_sound ht hr
  cases reached with
  | found spot node =>
      by_cases hdir : node.isDirectory = true
      · simp only [hdir, if_true] at h
        cases h
        exact ht
      · simp only [hdir] at h
        cases h
  | missing spot name =>
      cases spot with
      | removed => cases h
      | within names =>
          cases h
          exact ht.add hsound (.directory List.nodup_nil (by simp) (by simp))

theorem wellFormed_addParents (ht : tree.WellFormed) (h : tree.addParents p = .ok tree') : tree'.WellFormed := by
  unfold addParents at h
  generalize p.parents = parents at h
  induction parents generalizing tree with
  | nil =>
      cases h
      exact ht
  | cons parent parents ih =>
      rw [List.foldlM_cons] at h
      obtain ⟨next, hparent, h⟩ := bind_eq_ok_iff.mp h
      exact ih (wellFormed_addDirectory ht hparent) h

theorem wellFormed_remove (ht : tree.WellFormed) (h : tree.remove p = .ok tree') : tree'.WellFormed := by
  obtain ⟨reached, hr, h⟩ := bind_eq_ok_iff.mp h
  have hsound := resolve_sound ht hr
  cases reached with
  | missing spot name => cases h
  | found spot node =>
      cases spot with
      | removed => cases h
      | within names =>
          cases h
          have hget : tree.root.get? names = some node := hsound
          -- the removal is written down before the tree is looked at, so the current directory need not stand any more
          have hmarked : FileTree.WellFormed
              { tree with cwdRemoved := tree.cwdRemoved || names.isPrefixOf tree.cwd } :=
            ⟨ht.root, fun hremoved => ht.cwd (Bool.or_eq_false_iff.mp hremoved).1⟩
          refine hmarked.alter (ht.root.get? hget).1 ?_ fun hremoved rest _ hrest _ _ => ?_
          · rintro node? - _ ⟨⟩
          · have hprefix := (Bool.or_eq_false_iff.mp hremoved).2
            rw [show tree.cwd = names ++ rest from hrest, List.isPrefixOf_iff_prefix.mpr (List.prefix_append _ _)]
              at hprefix
            cases hprefix

theorem wellFormed_addLink {target : Path} (ht : tree.WellFormed) (h : tree.addLink p target = .ok tree') :
    tree'.WellFormed := by
  unfold addLink at h
  by_cases hnul : 0 ∈ target.bytes
  · rw [if_pos hnul] at h
    cases h
  · rw [if_neg hnul] at h
    obtain ⟨reached, hr, h⟩ := bind_eq_ok_iff.mp h
    have hsound := resolve_sound ht hr
    cases reached with
    | found spot node => cases h
    | missing spot name =>
        cases spot with
        | removed => cases h
        | within names =>
            cases h
            exact ht.add hsound (.link hnul)

theorem wellFormed_withMode {node : Node} (mode : Mode) (h : node.WellFormed) : (withMode mode node).WellFormed := by
  cases node with
  | file content _ => exact .file content mode
  | link target => exact h
  | directory _ entries => exact Node.wellFormed_directory_iff.mpr (Node.wellFormed_directory_iff.mp h)

theorem wellFormed_setMode {mode : Mode} (ht : tree.WellFormed) (h : tree.setMode p mode = .ok tree') :
    tree'.WellFormed := by
  obtain ⟨reached, hr, h⟩ := bind_eq_ok_iff.mp h
  have hsound := resolve_sound ht hr
  cases reached with
  | missing spot name => cases h
  | found spot node =>
      cases spot with
      | removed => cases h
      | within names =>
          cases h
          have hget : tree.root.get? names = some node := hsound
          refine ht.alter (ht.root.get? hget).1 ?_ fun _ rest inner _ _ hdir =>
            ⟨withMode mode inner, rfl, Node.isDirectoryAt_withMode mode hdir⟩
          intro node? hnode? node' hnode'
          obtain ⟨inner, hinner, rfl⟩ := Option.map_eq_some_iff.mp hnode'
          exact wellFormed_withMode mode (hnode? inner hinner)

/-- Writing makes a file where the path finds room for one, or changes the file that the path leads to. -/
theorem write_eq_ok {content : List UInt8} (h : tree.write caller p content = .ok tree') :
    (∃ names name, tree.resolve caller .create p = .ok (.missing (.within names) name) ∧
      tree.mayAddTo caller names = true ∧
        tree' = tree.alter (names ++ [name]) fun _ => some (.file content Mode.file)) ∨
    ∃ names old mode, tree.resolve caller .create p = .ok (.found (.within names) (.file old mode)) ∧
      caller.may mode.write = true ∧ tree' = tree.alter names fun _ => some (.file content mode) := by
  obtain ⟨reached, hr, h⟩ := bind_eq_ok_iff.mp h
  cases reached with
  | missing spot name =>
      cases spot with
      | removed => cases h
      | within names =>
          by_cases hmay : tree.mayAddTo caller names = true
          · simp only [hmay, if_true] at h
            cases h
            exact Or.inl ⟨names, name, hr, hmay, rfl⟩
          · simp only [hmay] at h
            cases h
  | found spot node =>
      cases spot with
      | removed => cases node <;> cases h
      | within names =>
          cases node with
          | link => cases h
          | directory => cases h
          | file old mode =>
              by_cases hmay : caller.may mode.write = true
              · simp only [hmay, if_true] at h
                cases h
                exact Or.inr ⟨names, old, mode, hr, hmay, rfl⟩
              · simp only [hmay] at h
                cases h

theorem wellFormed_write {content : List UInt8} (ht : tree.WellFormed) (h : tree.write caller p content = .ok tree') :
    tree'.WellFormed := by
  rcases write_eq_ok h with ⟨names, name, hr, -, rfl⟩ | ⟨names, old, mode, hr, -, rfl⟩
  · exact ht.add (resolve_sound ht hr) (.file content Mode.file)
  · exact ht.replaceFile (resolve_sound ht hr)

/-- A tree is well-formed again behind every change. -/
theorem wellFormed_apply (ht : tree.WellFormed) {edit : Edit} (h : tree.apply edit = .ok tree') : tree'.WellFormed := by
  have hparents : ∀ {p : Path} {next : FileTree → Except FileError FileTree},
      (tree.addParents p >>= next) = .ok tree' → ∃ mid : FileTree, mid.WellFormed ∧ next mid = .ok tree' := by
    intro p next h
    obtain ⟨mid, hmid, h⟩ := bind_eq_ok_iff.mp h
    exact ⟨mid, wellFormed_addParents ht hmid, h⟩
  cases edit with
  | write p content =>
      obtain ⟨mid, hmid, h⟩ := hparents h
      exact wellFormed_write hmid h
  | makeDirectory p =>
      obtain ⟨mid, hmid, h⟩ := hparents h
      exact wellFormed_addDirectory hmid h
  | remove p => exact wellFormed_remove ht h
  | link p target =>
      obtain ⟨mid, hmid, h⟩ := hparents h
      exact wellFormed_addLink hmid h
  | setMode p mode => exact wellFormed_setMode ht h

/-- Trees that are made by changes from one that holds nothing but its root are well-formed. -/
theorem wellFormed_of_edits {edits : List Edit}
    (h : edits.foldlM apply ⟨Node.emptyDirectory, [], false⟩ = .ok tree) : tree.WellFormed := by
  have hempty : FileTree.WellFormed ⟨Node.emptyDirectory, [], false⟩ :=
    ⟨.directory List.nodup_nil (by simp) (by simp), fun _ => ⟨_, _, rfl⟩⟩
  generalize (⟨Node.emptyDirectory, [], false⟩ : FileTree) = start at h hempty
  induction edits generalizing start with
  | nil =>
      cases h
      exact hempty
  | cons edit edits ih =>
      rw [List.foldlM_cons] at h
      obtain ⟨next, hedit, h⟩ := bind_eq_ok_iff.mp h
      exact ih next h (wellFormed_apply hempty hedit)

end FileTree

end BuilderAudit
