import BuilderAudit.Proofs.FileTree.Alike
import BuilderAudit.Proofs.FileTree.Changes

/-!
# Trees that differ in one place

A file that is put in a place changes that place and nothing else. Every other file keeps its content and its
permissions, every link its target and every directory its permissions; the directories on the way to the place are the
same directories, though what they hold has changed.

* `Node.Twin` : nodes that are the same but for what a directory holds;
* `Node.twin_alter`, `Node.get?_alter_append` : a node with a file put in one place below it;
* `FileTree.ChangedAt` : trees that are the same everywhere but in one place (`changedAt_alter`);
* `FileTree.FilePut` : a file put in one place (`filePut_replace`, `filePut_add`);
* `ChangedAt.alike` : trees that differ in one file are alike.
-/

namespace BuilderAudit

/-- Two nodes that are the same but for what a directory holds. -/
inductive Node.Twin : Node → Node → Prop
  | file (content : List UInt8) (mode : Mode) : Twin (.file content mode) (.file content mode)
  | directory (mode : Mode) (entries entries' : List (Name × Node)) :
      Twin (.directory mode entries) (.directory mode entries')
  | link (target : Path) : Twin (.link target) (.link target)

/-- Two trees whose nodes are twins everywhere but in one place. -/
structure FileTree.ChangedAt (place : List Name) (before after : FileTree) : Prop where
  cwd : after.cwd = before.cwd
  cwdRemoved : after.cwdRemoved = before.cwdRemoved
  others : ∀ other ≠ place, Option.Rel Node.Twin (before.root.get? other) (after.root.get? other)

/-- In the second tree, one place has a file with some content; nothing else has changed. A file that was there before
has kept its permissions. -/
structure FileTree.FilePut (before after : FileTree) (place : List Name) (content : List UInt8) (mode : Mode) :
    Prop where
  changed : ChangedAt place before after
  there : after.root.get? place = some (.file content mode)
  old : (∃ content', before.root.get? place = some (.file content' mode)) ∨
    before.root.get? place = none ∧ mode = Mode.file

namespace Node

theorem Twin.refl (node : Node) : node.Twin node := by
  cases node with
  | file content mode => exact .file content mode
  | directory mode entries => exact .directory mode entries entries
  | link target => exact .link target

theorem Twin.alike {node node' : Node} (h : node.Twin node') : node.Alike node' := by
  cases h with
  | file => exact .file
  | directory => exact .directory
  | link => exact .link

theorem twin_refl (node? : Option Node) : Option.Rel Twin node? node? := by
  cases node? with
  | none => exact .none
  | some node => exact .some (.refl node)

theorem alike_of_twin {node? node'? : Option Node} (h : Option.Rel Twin node? node'?) :
    Option.Rel Alike node? node'? := by
  cases h with
  | none => exact .none
  | some h => exact .some h.alike

variable {f : Option Node → Option Node} {node inner : Node} {names rest : List Name}

/-- On the way to a changed place, a node is changed as it would be alone. -/
theorem get?_alter_append (hwf : node.WellFormed) (h : node.get? names = some inner) :
    (alter f (names ++ rest) (some node)).bind (·.get? names) = alter f rest (some inner) := by
  induction names generalizing node with
  | nil =>
      rw [get?_nil, Option.some.injEq] at h
      rw [h, List.nil_append]
      simp
  | cons name names ih =>
      rw [get?_cons, Option.bind_eq_some_iff] at h
      obtain ⟨next, hnext, h⟩ := h
      cases node with
      | file => cases hnext
      | link => cases hnext
      | directory mode entries =>
          rw [entry?_directory] at hnext
          rw [List.cons_append, alter, Option.bind_some, get?_cons, entry?_directory, lookup_alterEntry hwf.nodup,
            if_pos rfl, hnext]
          exact ih (hwf.entry hnext).2 h

/-- A file that is put in a place that is no directory leaves all other places as they are. -/
theorem twin_alter {content : List UInt8} {mode : Mode} {place other : List Name} {node? : Option Node}
    (hwf : ∀ node ∈ node?, WellFormed node)
    (hplace : ∀ inner ∈ node?.bind (·.get? place), isDirectory inner = false) (h : other ≠ place) :
    Option.Rel Twin (node?.bind (·.get? other))
      ((alter (fun _ => some (.file content mode)) place node?).bind (·.get? other)) := by
  induction place generalizing other node? with
  | nil =>
      obtain ⟨first, other, rfl⟩ := List.exists_cons_of_ne_nil h
      have hbelow : node?.bind (·.get? (first :: other)) = none := by
        rw [Option.bind_eq_none_iff]
        intro node hnode
        have hdir := hplace node (by rw [hnode]; exact get?_nil node)
        cases node with
        | file => rfl
        | link => rfl
        | directory => cases hdir
      rw [hbelow]
      exact .none
  | cons name place ih =>
      rcases node? with _ | ⟨_⟩ | ⟨dirMode, entries⟩ | ⟨_⟩
      · exact .none
      · exact twin_refl _
      · rw [alter, Option.bind_some, Option.bind_some]
        cases other with
        | nil =>
            rw [get?_nil, get?_nil]
            exact .some (.directory ..)
        | cons first other =>
            have hdir := hwf _ rfl
            rw [get?_cons, get?_cons, entry?_directory, entry?_directory, lookup_alterEntry hdir.nodup]
            by_cases hfirst : first = name
            · subst hfirst
              rw [if_pos rfl]
              refine ih (fun node hnode => (hdir.entry hnode).2) (fun inner hinner => hplace inner ?_) fun heq =>
                h (by rw [heq])
              rwa [Option.bind_some, get?_cons, entry?_directory]
            · rw [if_neg hfirst]
              exact twin_refl _
      · exact twin_refl _

end Node

namespace FileTree

variable {tree before after : FileTree} {place : List Name} {content content' : List UInt8} {mode mode' : Mode}

/-- A file that is put where no directory stands. -/
theorem changedAt_alter (ht : tree.WellFormed) (hfree : ∀ inner ∈ tree.root.get? place, inner.isDirectory = false)
    (hthere : (Node.alter (fun _ => some (.file content mode)) place (some tree.root)).bind (·.get? place) =
      some (.file content mode)) :
    ChangedAt place tree (tree.alter place fun _ => some (.file content mode)) ∧
      (tree.alter place fun _ => some (.file content mode)).root.get? place = some (.file content mode) := by
  have hroot : ∀ names, (tree.alter place fun _ => some (.file content mode)).root.get? names =
      (Node.alter (fun _ => some (.file content mode)) place (some tree.root)).bind (·.get? names) := by
    intro names
    rw [FileTree.alter]
    generalize Node.alter (fun _ => some (.file content mode)) place (some tree.root) = root at hthere ⊢
    cases root with
    | none => cases hthere
    | some root => rfl
  have hwf : ∀ node ∈ some tree.root, node.WellFormed := by
    rintro _ ⟨⟩
    exact ht.root
  refine ⟨⟨rfl, rfl, fun other hne => ?_⟩, (hroot place).trans hthere⟩
  rw [hroot other]
  exact Node.twin_alter hwf hfree hne

theorem changedAt_replace (ht : tree.WellFormed) (hold : tree.root.get? place = some (.file content' mode')) :
    ChangedAt place tree (tree.alter place fun _ => some (.file content mode)) ∧
      (tree.alter place fun _ => some (.file content mode)).root.get? place = some (.file content mode) := by
  have hthere := @Node.get?_alter_append (fun _ => some (.file content mode)) _ _ _ [] ht.root hold
  rw [List.append_nil, Node.alter] at hthere
  have hfree : ∀ inner ∈ tree.root.get? place, inner.isDirectory = false := by
    rw [hold]
    rintro _ ⟨⟩
    rfl
  exact changedAt_alter ht hfree hthere

/-- A file that is put in the place of another one keeps the permissions of that one. -/
theorem filePut_replace (ht : tree.WellFormed) (hold : tree.root.get? place = some (.file content' mode)) :
    FilePut tree (tree.alter place fun _ => some (.file content mode)) place content mode :=
  ⟨(changedAt_replace ht hold).1, (changedAt_replace ht hold).2, Or.inl ⟨_, hold⟩⟩

/-- A file that is put where nothing stands has the permissions of a new file. -/
theorem filePut_add (ht : tree.WellFormed) {names : List Name} {name : Name} {dir : Mode} {entries : List (Name × Node)}
    (hdir : tree.root.get? names = some (.directory dir entries)) (hl : entries.lookup name = none) :
    FilePut tree (tree.alter (names ++ [name]) fun _ => some (.file content Mode.file)) (names ++ [name]) content
      Mode.file := by
  have hnothing : tree.root.get? (names ++ [name]) = none := by
    rw [Node.get?_append, hdir, Option.bind_some, Node.get?_singleton, Node.entry?_directory, hl]
  have hthere : (Node.alter (fun _ => some (.file content Mode.file)) (names ++ [name]) (some tree.root)).bind
      (·.get? (names ++ [name])) = some (.file content Mode.file) := by
    simp only [Node.get?_append, ← Option.bind_assoc, Node.get?_alter_append ht.root hdir, Node.get?_singleton]
    rw [Node.alter, Option.bind_some, Node.entry?_directory,
      Node.lookup_alterEntry (ht.root.get? hdir).2.nodup, if_pos rfl, Node.alter]
  have hfree : ∀ inner ∈ tree.root.get? (names ++ [name]), inner.isDirectory = false := by
    rw [hnothing]
    exact fun _ hnone => nomatch hnone
  obtain ⟨hchanged, hput⟩ := changedAt_alter ht hfree hthere
  exact ⟨hchanged, hput, Or.inr ⟨hnothing, rfl⟩⟩

/-- Trees that differ in one file are alike. -/
theorem ChangedAt.alike (h : ChangedAt place before after)
    (hbefore : before.root.get? place = some (.file content mode))
    (hafter : after.root.get? place = some (.file content' mode')) : before.Alike after where
  cwd := h.cwd.symm
  cwdRemoved := h.cwdRemoved.symm
  nodes names := by
    by_cases hnames : names = place
    · rw [hnames, hbefore, hafter]
      exact .some .file
    · exact Node.alike_of_twin (h.others names hnames)

/-- Where the content or the permissions of a file differ, there the trees differ. -/
theorem ChangedAt.eq_place (h : ChangedAt place before after) {names : List Name}
    (hbefore : before.root.get? names = some (.file content mode))
    (hafter : after.root.get? names = some (.file content' mode')) (hne : (content, mode) ≠ (content', mode')) :
    names = place := by
  by_contra hnames
  have htwin := h.others names hnames
  rw [hbefore, hafter] at htwin
  cases htwin with
  | some htwin =>
      cases htwin with
      | file => exact hne rfl

end FileTree

end BuilderAudit
