import BuilderAudit.Proofs.FileTree.Following

/-!
# File trees of the same shape

Two trees are alike if the same names lead to nodes of the same kind in both, links having the same targets and
directories the same permissions. The trees may differ in what their files hold, in the permissions of files, and in the
order in which directories hold their entries. Paths cannot tell such trees apart.

* `FileTree.Alike` : the relation;
* `along_alike`, `resolve_alike` : every path leads to the same place in both trees;
* `isFile_alike`, `list_alike` : what the tests and the listing of directories show.
-/

namespace BuilderAudit

/-- Two nodes of the same kind; links lead to the same target, and directories have the same permissions. -/
inductive Node.Alike : Node → Node → Prop
  | file {content content' : List UInt8} {mode mode' : Mode} : Alike (.file content mode) (.file content' mode')
  | directory {mode : Mode} {entries entries' : List (Name × Node)} :
      Alike (.directory mode entries) (.directory mode entries')
  | link {target : Path} : Alike (.link target) (.link target)

/-- The same names lead to nodes of the same kind in both trees. -/
structure FileTree.Alike (a b : FileTree) : Prop where
  cwd : a.cwd = b.cwd
  cwdRemoved : a.cwdRemoved = b.cwdRemoved
  nodes : ∀ names, Option.Rel Node.Alike (a.root.get? names) (b.root.get? names)

/-- Two lists of entries with nodes of the same kind under each name. -/
def EntriesAlike (entries entries' : List (Name × Node)) : Prop :=
  ∀ name, Option.Rel Node.Alike (entries.lookup name) (entries'.lookup name)

/-- Two outcomes that fail alike or have related results. -/
inductive Agree {α β : Type} (r : α → β → Prop) : Except FileError α → Except FileError β → Prop
  | ok {a : α} {b : β} (h : r a b) : Agree r (.ok a) (.ok b)
  | error (e : FileError) : Agree r (.error e) (.error e)

/-- Two paths that lead to the same place. -/
inductive Reached.Alike : Reached → Reached → Prop
  | found {node node' : Node} (spot : Spot) (h : node.Alike node') : Alike (.found spot node) (.found spot node')
  | missing (directory : Spot) (name : Name) : Alike (.missing directory name) (.missing directory name)

theorem Agree.eq {α : Type} {x y : Except FileError α} (h : Agree Eq x y) : x = y := by
  cases h with
  | ok h => rw [h]
  | error e => rfl

theorem Node.Alike.refl (node : Node) : node.Alike node := by
  cases node with
  | file => exact .file
  | directory => exact .directory
  | link => exact .link

theorem Node.Alike.symm {node node' : Node} (h : node.Alike node') : node'.Alike node := by
  cases h with
  | file => exact .file
  | directory => exact .directory
  | link => exact .link

theorem Node.Alike.isFile_eq {node node' : Node} (h : node.Alike node') : node.isFile = node'.isFile := by
  cases h <;> rfl

theorem Node.Alike.isDirectory_eq {node node' : Node} (h : node.Alike node') :
    node.isDirectory = node'.isDirectory := by
  cases h <;> rfl

theorem Node.Alike.isLink_eq {node node' : Node} (h : node.Alike node') : node.isLink = node'.isLink := by
  cases h <;> rfl

theorem EntriesAlike.of_lookup {entries entries' : List (Name × Node)} (h : EntriesAlike entries entries') {name : Name}
    {node : Node} (hl : entries.lookup name = some node) :
    ∃ node', entries'.lookup name = some node' ∧ node.Alike node' := by
  have hn := h name
  rw [hl] at hn
  generalize entries'.lookup name = x at hn ⊢
  cases hn with
  | some hn => exact ⟨_, rfl, hn⟩

namespace FileTree

variable {a b : FileTree}

theorem Alike.symm (h : a.Alike b) : b.Alike a where
  cwd := h.cwd.symm
  cwdRemoved := h.cwdRemoved.symm
  nodes names := by
    have hn := h.nodes names
    generalize a.root.get? names = x, b.root.get? names = y at hn ⊢
    cases hn with
    | none => exact .none
    | some hn => exact .some hn.symm

theorem at?_alike (h : a.Alike b) (here : Spot) : Option.Rel Node.Alike (a.at? here) (b.at? here) := by
  cases here with
  | within names => exact h.nodes names
  | removed => exact .some .directory

theorem entries_alike (h : a.Alike b) {here : Spot} {mode mode' : Mode} {entries entries' : List (Name × Node)}
    (ha : a.at? here = some (.directory mode entries)) (hb : b.at? here = some (.directory mode' entries')) :
    EntriesAlike entries entries' := by
  intro name
  cases here with
  | within names =>
      have hn := h.nodes (names ++ [name])
      rw [Node.get?_append, Node.get?_append, show a.root.get? names = _ from ha, show b.root.get? names = _ from hb,
        Option.bind_some, Option.bind_some, Node.get?_singleton, Node.get?_singleton] at hn
      exact hn
  | removed =>
      rw [at?, Node.emptyDirectory, Option.some.injEq, Node.directory.injEq] at ha hb
      rw [← ha.2, ← hb.2]
      exact .none

variable {caller : Caller} {ending : Ending} {jump jump' : Jump}

/-- Names lead to the same place in both trees. -/
theorem along_alike (h : a.Alike b)
    (hjump : ∀ here slash names, Agree Reached.Alike (jump here slash names) (jump' here slash names)) (here : Spot)
    (slash : Bool) (names : List Name) :
    Agree Reached.Alike (along a caller ending jump here slash names)
      (along b caller ending jump' here slash names) := by
  induction names generalizing here with
  | nil =>
      rw [along, along]
      have hhere := at?_alike h here
      generalize a.at? here = x, b.at? here = y at hhere ⊢
      cases hhere with
      | none => exact .error _
      | some hn => exact .ok (.found here hn)
  | cons name rest ih =>
      rw [along, along]
      have hhere := at?_alike h here
      have habove : a.above here = b.above here := by cases here <;> simp [above, h.cwd]
      generalize hx : a.at? here = x, hy : b.at? here = y at hhere ⊢
      cases hhere with
      | none => exact .error _
      | some hn =>
          cases hn with
          | file => exact .error _
          | link => exact .error _
          | @directory _ entries entries' =>
              have hentries := entries_alike h hx hy name
              dsimp only
              rw [habove]
              split
              · exact .error _
              split
              · exact ih here
              split
              · exact ih _
              split
              · exact .error _
              split
              · exact .error _
              generalize entries.lookup name = x, entries'.lookup name = y at hentries ⊢
              cases hentries with
              | none =>
                  dsimp only
                  split
                  · exact .ok (.missing _ _)
                  · exact .error _
              | some hn =>
                  cases hn with
                  | file =>
                      dsimp only
                      split
                      · exact .ok (.found _ .file)
                      · exact .error _
                  | directory =>
                      dsimp only
                      split
                      · exact .ok (.found _ .directory)
                      · exact ih _
                  | link =>
                      dsimp only
                      split
                      · exact .ok (.found _ .link)
                      · exact hjump _ _ _

theorem follow_alike (h : a.Alike b) (links : Nat) (here : Spot) (slash : Bool) (names : List Name) :
    Agree Reached.Alike (follow a caller ending links here slash names)
      (follow b caller ending links here slash names) := by
  induction links generalizing here slash names with
  | zero => exact along_alike h (fun _ _ _ => .error _) here slash names
  | succ links ih => exact along_alike h ih here slash names

theorem resolve_alike (h : a.Alike b) (p : Path) :
    Agree Reached.Alike (a.resolve caller ending p) (b.resolve caller ending p) := by
  have hstart : a.start = b.start := by rw [start, start, h.cwd, h.cwdRemoved]
  rw [resolve, resolve, hstart]
  split
  · exact .error _
  split
  · exact .error _
  split
  · exact .error _
  exact follow_alike h _ _ _ _

theorem lookUp_alike (h : a.Alike b) (p : Path) : Agree Node.Alike (a.lookUp p) (b.lookUp p) := by
  rw [lookUp, lookUp]
  have hr : Agree Reached.Alike (a.resolve .user .follow p) (b.resolve .user .follow p) := resolve_alike h p
  generalize a.resolve .user .follow p = x, b.resolve .user .follow p = y at hr ⊢
  cases hr with
  | error e => exact .error e
  | ok hr =>
      cases hr with
      | found spot hn => exact .ok hn
      | missing directory name => exact .error _

theorem isFile_alike (h : a.Alike b) (p : Path) : a.isFile p = b.isFile p := by
  rw [isFile, isFile]
  have hn := lookUp_alike h p
  generalize a.lookUp p = x, b.lookUp p = y at hn ⊢
  cases hn with
  | error e => rfl
  | ok hn => exact hn.isFile_eq

/-- A path can be listed in both trees or fails alike, and then shows nodes of the same kind under each name. -/
theorem list_alike (h : a.Alike b) (p : Path) : Agree EntriesAlike (a.list p) (b.list p) := by
  rw [list, list, lookUp, lookUp]
  have hr : Agree Reached.Alike (a.resolve .user .follow p) (b.resolve .user .follow p) := resolve_alike h p
  generalize hx : a.resolve .user .follow p = x, hy : b.resolve .user .follow p = y at hr ⊢
  cases hr with
  | error e => exact .error e
  | ok hr =>
      cases hr with
      | missing directory name => exact .error _
      | found spot hn =>
          cases hn with
          | file => exact .error _
          | link => exact .error _
          | @directory mode entries entries' =>
              have hentries := entries_alike h (resolve_at? hx) (resolve_at? hy)
              cases hread : mode.read with
              | false =>
                  simp only [bind, Except.bind, pure, Except.pure, hread]
                  exact .error _
              | true =>
                  simp only [bind, Except.bind, pure, Except.pure, hread]
                  exact .ok hentries

theorem list_ok_alike (h : a.Alike b) {p : Path} {entries : List (Name × Node)} (hl : a.list p = .ok entries) :
    ∃ entries', b.list p = .ok entries' ∧ EntriesAlike entries entries' := by
  have hp := list_alike h p
  rw [hl] at hp
  generalize b.list p = x at hp ⊢
  cases hp with
  | ok hes => exact ⟨_, rfl, hes⟩

theorem list_error_alike (h : a.Alike b) {p : Path} {e : FileError} (hl : a.list p = .error e) :
    b.list p = .error e := by
  have hp := list_alike h p
  rw [hl] at hp
  generalize b.list p = x at hp ⊢
  cases hp with
  | error => rfl

end FileTree

end BuilderAudit
