import BuilderAudit.Discovery
import BuilderAudit.Proofs.FileTree.Alike

/-!
# What a walk meets

A walk starts at its root and goes from a directory that it can list into the directories that it finds there. This is
said without the order of the visits, and only in terms of what the paths below the root show.

* `Walk.Enters` : the directories that a walk comes to, by their names below the root;
* `Walk.Finds` : the entries of those that it can list;
* `Walk.Meets` : the visits, one for each file and each directory that cannot be listed;
* `mem_visits_iff`, `mem_ofRoot_iff` : these are exactly the visits of a walk;
* `meets_alike` : trees of the same shape show the same visits.
-/

namespace BuilderAudit.Walk

/-- The names below the root under which a walk comes to a directory. It goes on below those that it can list, and only
into entries that are directories themselves. -/
inductive Enters (tree : FileTree) (root : Path) : List Name → Prop
  | root : Enters tree root []
  | into {names : List Name} {name : Name} {entries inner : List (Name × Node)} {mode : Mode}
      (above : Enters tree root names) (listed : tree.list (root.joinAll names) = .ok entries)
      (found : entries.lookup name = some (.directory mode inner)) : Enters tree root (names ++ [name])

/-- A walk finds an entry in a directory that it comes to and can list. -/
def Finds (tree : FileTree) (root : Path) (names : List Name) (name : Name) (node : Node) : Prop :=
  Enters tree root names ∧ ∃ entries, tree.list (root.joinAll names) = .ok entries ∧ entries.lookup name = some node

/-- What a walk meets: files, links to files, and directories that cannot be listed. -/
inductive Meets (tree : FileTree) (root : Path) : Visit → Prop
  | file {names : List Name} {name : Name} {node : Node} (found : Finds tree root names name node)
      (isFile : node.isFile = true ∨ node.isLink = true ∧ tree.isFile (root.joinAll (names ++ [name])) = true) :
      Meets tree root (.file (root.joinAll (names ++ [name])) name)
  | unreadable {names : List Name} {cause : FileError} (entered : Enters tree root names)
      (unlisted : tree.list (root.joinAll names) = .error cause) :
      Meets tree root (.unreadable (root.joinAll names) cause)

variable {tree : FileTree} {path : Path} {entries : List (Name × Node)} {v : Visit}

/-! ## The walk of a directory and the walks of its entries -/

/-- What is entered below a directory is entered from one of its entries. -/
theorem enters_cons_iff (hl : tree.list path = .ok entries) {name : Name} {names : List Name} :
    Enters tree path (name :: names) ↔
      (∃ mode inner, entries.lookup name = some (.directory mode inner)) ∧ Enters tree (path.join name) names := by
  constructor
  · intro h
    generalize hall : name :: names = all at h
    induction h generalizing names with
    | root => cases hall
    | @into above last es inner mode habove listed found ih =>
        cases above with
        | nil =>
            rw [List.nil_append, List.cons.injEq] at hall
            obtain ⟨rfl, rfl⟩ := hall
            rw [Path.joinAll_nil, hl, Except.ok.injEq] at listed
            exact ⟨⟨mode, inner, listed ▸ found⟩, .root⟩
        | cons first above =>
            rw [List.cons_append, List.cons.injEq] at hall
            obtain ⟨rfl, rfl⟩ := hall
            obtain ⟨hfirst, hrest⟩ := ih rfl
            exact ⟨hfirst, .into hrest listed found⟩
  · rintro ⟨⟨mode, inner, hname⟩, h⟩
    induction h with
    | root => exact .into .root hl hname
    | into _ listed found ih => exact .into ih listed found

/-- Nothing is entered below a directory that cannot be listed. -/
theorem enters_of_unlisted {cause : FileError} (hl : tree.list path = .error cause) {names : List Name}
    (h : Enters tree path names) : names = [] := by
  induction h with
  | root => rfl
  | into _ listed _ ih =>
      rw [ih, Path.joinAll_nil, hl] at listed
      cases listed

theorem meets_of_unlisted {cause : FileError} (hl : tree.list path = .error cause) :
    Meets tree path v ↔ v = .unreadable path cause := by
  constructor
  · intro h
    cases h with
    | file found _ =>
        obtain ⟨hentered, entries, hlisted, -⟩ := found
        rw [enters_of_unlisted hl hentered, Path.joinAll_nil, hl] at hlisted
        cases hlisted
    | unreadable entered unlisted =>
        rw [enters_of_unlisted hl entered, Path.joinAll_nil, hl, Except.error.injEq] at unlisted
        rw [enters_of_unlisted hl entered, Path.joinAll_nil, unlisted]
  · rintro rfl
    exact .unreadable .root hl

/-- What a walk meets at an entry of a directory. -/
inductive MeetsAt (tree : FileTree) (path : Path) (name : Name) : Node → Visit → Prop
  | file {content : List UInt8} {mode : Mode} : MeetsAt tree path name (.file content mode) (.file path name)
  | link {target : Path} (h : tree.isFile path = true) : MeetsAt tree path name (.link target) (.file path name)
  | directory {mode : Mode} {entries : List (Name × Node)} {v : Visit} (h : Meets tree path v) :
      MeetsAt tree path name (.directory mode entries) v

/-- What is met below a directory is met at one of its entries. -/
theorem meets_of_listed (hl : tree.list path = .ok entries) :
    Meets tree path v ↔ ∃ name node, entries.lookup name = some node ∧ MeetsAt tree (path.join name) name node v := by
  constructor
  · intro h
    cases h with
    | @file names name node found isFile =>
        obtain ⟨hentered, es, hlisted, hname⟩ := found
        cases names with
        | nil =>
            rw [Path.joinAll_nil, hl, Except.ok.injEq] at hlisted
            subst hlisted
            refine ⟨name, node, hname, ?_⟩
            cases node with
            | file => exact .file
            | link => exact .link (by simpa [Node.isFile, Node.isLink] using isFile)
            | directory => simp [Node.isFile, Node.isLink] at isFile
        | cons first names =>
            obtain ⟨⟨mode, inner, hfirst⟩, hrest⟩ := (enters_cons_iff hl).mp hentered
            exact ⟨first, _, hfirst, .directory (.file ⟨hrest, es, hlisted, hname⟩ isFile)⟩
    | @unreadable names cause entered unlisted =>
        cases names with
        | nil =>
            rw [Path.joinAll_nil, hl] at unlisted
            cases unlisted
        | cons first names =>
            obtain ⟨⟨mode, inner, hfirst⟩, hrest⟩ := (enters_cons_iff hl).mp entered
            exact ⟨first, _, hfirst, .directory (.unreadable hrest unlisted)⟩
  · rintro ⟨name, node, hname, h⟩
    cases h with
    | file => exact .file (show Finds tree path [] name _ from ⟨.root, entries, hl, hname⟩) (Or.inl rfl)
    | link h => exact .file (show Finds tree path [] name _ from ⟨.root, entries, hl, hname⟩) (Or.inr ⟨rfl, h⟩)
    | directory h =>
        cases h with
        | @file names last node found isFile =>
            obtain ⟨hentered, es, hlisted, hlast⟩ := found
            have hcons := (enters_cons_iff hl).mpr ⟨⟨_, _, hname⟩, hentered⟩
            exact .file (show Finds tree path (name :: names) last _ from ⟨hcons, es, hlisted, hlast⟩) isFile
        | @unreadable names cause entered unlisted =>
            have hcons := (enters_cons_iff hl).mpr ⟨⟨_, _, hname⟩, entered⟩
            exact .unreadable hcons unlisted

/-! ## The visits of a walk -/

theorem entryVisits_eq_map (tree : FileTree) (path : Path) (entries : List (Name × Node)) :
    entryVisits tree path entries = entries.map fun e => (e.1, visits tree (path.join e.1) e.1 e.2) := by
  induction entries with
  | nil => rfl
  | cons e entries ih =>
      rw [entryVisits, ih]
      rfl

theorem mem_inOrder {visited : List (Name × List Visit)} : v ∈ inOrder visited ↔ ∃ e ∈ visited, v ∈ e.2 := by
  rw [inOrder, List.mem_flatMap]
  simp only [List.mem_mergeSort]

theorem visits_of_listed {mode : Mode} {es : List (Name × Node)} (hl : tree.list path = .ok es) (name : Name) :
    visits tree path name (.directory mode entries) =
      inOrder (entries.map fun e => (e.1, visits tree (path.join e.1) e.1 e.2)) := by
  rw [visits, hl, entryVisits_eq_map]

theorem visits_of_unlisted {mode : Mode} {cause : FileError} (hl : tree.list path = .error cause) (name : Name) :
    visits tree path name (.directory mode entries) = [.unreadable path cause] := by
  rw [visits, hl]

/-- The visits at a node are what is met there, if its path shows the node or nothing. -/
theorem mem_visits_iff {node : Node} (hwf : node.WellFormed) {name : Name}
    (hpath : node.isDirectory = true → ∀ found, tree.lookUp path = .ok found → found = node) :
    v ∈ visits tree path name node ↔ MeetsAt tree path name node v := by
  induction hwf generalizing path name with
  | file content mode =>
      rw [visits, List.mem_singleton]
      exact ⟨fun h => h ▸ .file, fun h => by cases h; rfl⟩
  | link target =>
      rw [visits]
      split
      · next h =>
        rw [List.mem_singleton]
        exact ⟨fun hv => hv ▸ .link h, fun hv => by cases hv; rfl⟩
      · next h =>
        constructor
        · intro hv
          cases hv
        · intro hv
          cases hv
          contradiction
  | @directory mode entries nodup proper nodes ih =>
      have hmeets : MeetsAt tree path name (.directory mode entries) v ↔ Meets tree path v :=
        ⟨fun h => by cases h; assumption, .directory⟩
      rw [hmeets]
      cases hl : tree.list path with
      | error cause => rw [visits_of_unlisted hl, List.mem_singleton, meets_of_unlisted hl]
      | ok es =>
          obtain ⟨m, -, hlook⟩ := FileTree.list_eq_ok_iff.mp hl
          obtain ⟨rfl, rfl⟩ : m = mode ∧ es = entries := by simpa using hpath rfl _ hlook
          have hentry : ∀ e ∈ es,
              (v ∈ visits tree (path.join e.1) e.1 e.2 ↔ MeetsAt tree (path.join e.1) e.1 e.2 v) := by
            intro e he
            refine ih e he fun hdir found hfound => ?_
            exact FileTree.lookUp_join_eq hlook (proper e he) (lookup_of_mem nodup he)
              (Node.isLink_of_isDirectory hdir) hfound
          rw [visits_of_listed hl, meets_of_listed hl, mem_inOrder]
          simp only [List.mem_map, exists_exists_and_eq_and]
          constructor
          · rintro ⟨e, he, hv⟩
            exact ⟨e.1, e.2, lookup_of_mem nodup he, (hentry e he).mp hv⟩
          · rintro ⟨n, node, hn, hv⟩
            exact ⟨(n, node), mem_of_lookup hn, (hentry _ (mem_of_lookup hn)).mpr hv⟩

/-- The visits of a walk are what it meets, if its root does not lead to a file. -/
theorem mem_ofRoot_iff (ht : tree.WellFormed) {root : Path}
    (hdir : ∀ node, tree.lookUp root = .ok node → node.isDirectory = true) :
    v ∈ ofRoot tree root ↔ Meets tree root v := by
  cases hlook : tree.lookUp root with
  | error cause =>
      rw [ofRoot, hlook, List.mem_singleton, meets_of_unlisted (FileTree.list_of_lookUp_eq_error hlook)]
  | ok node =>
      obtain ⟨-, spot, hspot, -⟩ := FileTree.of_lookUp_eq_ok hlook
      have hpath : node.isDirectory = true → ∀ found, tree.lookUp root = .ok found → found = node := by
        intro _ found hfound
        rw [hlook, Except.ok.injEq] at hfound
        exact hfound.symm
      rw [ofRoot, hlook]
      show v ∈ visits tree root [] node ↔ _
      rw [mem_visits_iff (ht.at? hspot) hpath]
      cases node with
      | file => cases hdir _ hlook
      | link => cases hdir _ hlook
      | directory => exact ⟨fun h => by cases h; assumption, .directory⟩

/-! ## Trees of the same shape -/

theorem enters_alike {a b : FileTree} (h : a.Alike b) {root : Path} {names : List Name} (he : Enters a root names) :
    Enters b root names := by
  induction he with
  | root => exact .root
  | into _ listed found ih =>
      obtain ⟨es, hl, hes⟩ := FileTree.list_ok_alike h listed
      obtain ⟨node, hnode, hn⟩ := hes.of_lookup found
      cases hn
      exact .into ih hl hnode

theorem finds_alike {a b : FileTree} (h : a.Alike b) {root : Path} {names : List Name} {name : Name} {node : Node}
    (hf : Finds a root names name node) : ∃ node', Finds b root names name node' ∧ node.Alike node' := by
  obtain ⟨hentered, es, hl, hname⟩ := hf
  obtain ⟨es', hl', hes⟩ := FileTree.list_ok_alike h hl
  obtain ⟨node', hnode, hn⟩ := hes.of_lookup hname
  exact ⟨node', ⟨enters_alike h hentered, es', hl', hnode⟩, hn⟩

/-- Walks meet the same in trees of the same shape. -/
theorem meets_alike {a b : FileTree} (h : a.Alike b) {root : Path} (hm : Meets a root v) : Meets b root v := by
  cases hm with
  | file found isFile =>
      obtain ⟨node', hfound, hn⟩ := finds_alike h found
      rw [FileTree.isFile_alike h, hn.isFile_eq, hn.isLink_eq] at isFile
      exact .file hfound isFile
  | unreadable entered unlisted => exact .unreadable (enters_alike h entered) (FileTree.list_error_alike h unlisted)

end BuilderAudit.Walk
