import BuilderAudit.FileTree.Access
import BuilderAudit.Proofs.FileTree.WellFormed

/-!
# How a path is followed

Laws of following names from a directory, with all links followed unless something else is said.

* `along_dot`, `along_dots`, `along_directory`, `along_file`, `along_link`, `along_unsearchable` : one step from a
  directory, for each thing that a name can stand for;
* `Advance`, `along_cons_eq_ok` : all ways in which a step can succeed, also if links are not followed or room is
  wanted; `along_nil_eq_ok` : and what is found behind the last;
* `along_snoc`, `follow_snoc` : behind names that lead to a directory, one more name is looked up there;
* `lookUp_join` : what an entry of a directory shows under its own path;
* `follow_undotted` : single dots can be left out of names that lead to a directory;
* `follow_within` : proper names of directories lead to the place under them, unless a directory cannot be searched;
* `lookUp_absolute` : the absolute form of a path to a directory leads to the same directory or nowhere.
-/

namespace BuilderAudit.FileTree

/-- How a path goes on behind a link: from a spot, with or without a slash at its end, along some names. -/
abbrev Jump := Spot → Bool → List Name → Except FileError Reached

variable {tree : FileTree} {caller : Caller} {ending : Ending} {jump jump' : Jump} {here spot : Spot}
  {slash slash' : Bool} {mode : Mode} {entries : List (Name × Node)} {name : Name} {names rest : List Name}

/-- A name that is looked up in a directory: it does not lead up or stay, and it is not too long. -/
structure LookedUp (name : Name) : Prop where
  ne_dot : name ≠ [Path.dot]
  ne_dots : name ≠ [Path.dot, Path.dot]
  length_le : name.length ≤ nameLimit

theorem LookedUp.ofProper (h : ProperName name) : LookedUp name := ⟨h.ne_dot, h.ne_dots, h.length_le⟩

/-! ## One step -/

theorem along_nil {node : Node} (h : tree.at? here = some node) :
    along tree caller ending jump here slash [] = .ok (.found here node) := by
  rw [along, h]

/-- Without a name, what stands here is found. -/
theorem along_nil_eq_ok {reached : Reached} (h : along tree caller ending jump here slash [] = .ok reached) :
    ∃ node, tree.at? here = some node ∧ reached = .found here node := by
  rw [along] at h
  split at h
  · next node hhere =>
    cases h
    exact ⟨node, hhere, rfl⟩
  · cases h

section Step

variable (hhere : tree.at? here = some (.directory mode entries))
include hhere

theorem along_unsearchable (hs : caller.may mode.search = false) :
    along tree caller .follow jump here slash (name :: rest) = .error .permissionDenied := by
  rw [along, hhere]
  simp [hs]

variable (hs : caller.may mode.search = true)
include hs

theorem along_dot :
    along tree caller .follow jump here slash ([Path.dot] :: rest) =
      along tree caller .follow jump here slash rest := by
  rw [along, hhere]
  simp [hs]

theorem along_dots :
    along tree caller .follow jump here slash ([Path.dot, Path.dot] :: rest) =
      along tree caller .follow jump (tree.above here) slash rest := by
  rw [along, hhere]
  simp [hs]

variable (hname : LookedUp name)
include hname

theorem along_directory {inner : Mode} {below : List (Name × Node)}
    (hl : entries.lookup name = some (.directory inner below)) :
    along tree caller .follow jump here slash (name :: rest) =
      along tree caller .follow jump (FileTree.below here name) slash rest := by
  rw [along, hhere]
  simp only [hs, hname.ne_dot, hname.ne_dots, Nat.not_lt.mpr hname.length_le, hl]
  cases rest with
  | nil =>
      rw [along_nil (at?_below hhere hl)]
      simp
  | cons _ _ => simp

theorem along_file {content : List UInt8} {inner : Mode} (hl : entries.lookup name = some (.file content inner)) :
    along tree caller .follow jump here false [name] = .ok (.found (below here name) (.file content inner)) := by
  rw [along, hhere]
  simp [hs, hname.ne_dot, hname.ne_dots, Nat.not_lt.mpr hname.length_le, hl]

theorem along_link {target : Path} (hl : entries.lookup name = some (.link target)) :
    along tree caller .follow jump here slash (name :: rest) =
      jump (origin here target) (slash || rest.isEmpty && target.endsWithSlash) (target.steps ++ rest) := by
  rw [along, hhere]
  simp [hs, hname.ne_dot, hname.ne_dots, Nat.not_lt.mpr hname.length_le, hl]

end Step

/-- All ways in which the first of some names leads on from a directory with some entries. -/
inductive Advance (tree : FileTree) (caller : Caller) (ending : Ending) (jump : Jump) (here : Spot) (slash : Bool)
    (entries : List (Name × Node)) (rest : List Name) (reached : Reached) : Name → Prop
  | dot (hnext : along tree caller ending jump here slash rest = .ok reached) :
      Advance tree caller ending jump here slash entries rest reached [Path.dot]
  | dots (hnext : along tree caller ending jump (tree.above here) slash rest = .ok reached) :
      Advance tree caller ending jump here slash entries rest reached [Path.dot, Path.dot]
  | missing {name : Name} (hname : LookedUp name) (hl : entries.lookup name = none) (hrest : rest = [])
      (hslash : ending = .create → slash = false) (hreached : reached = .missing here name) :
      Advance tree caller ending jump here slash entries rest reached name
  | directory {name : Name} (hname : LookedUp name) {mode : Mode} {inner : List (Name × Node)}
      (hl : entries.lookup name = some (.directory mode inner))
      (hnext : along tree caller ending jump (below here name) slash rest = .ok reached) :
      Advance tree caller ending jump here slash entries rest reached name
  | file {name : Name} (hname : LookedUp name) {content : List UInt8} {mode : Mode}
      (hl : entries.lookup name = some (.file content mode)) (hrest : rest = []) (hslash : slash = false)
      (hreached : reached = .found (below here name) (.file content mode)) :
      Advance tree caller ending jump here slash entries rest reached name
  | link {name : Name} (hname : LookedUp name) {target : Path} (hl : entries.lookup name = some (.link target))
      (hnext : jump (origin here target) (slash || rest.isEmpty && target.endsWithSlash) (target.steps ++ rest) =
        .ok reached) :
      Advance tree caller ending jump here slash entries rest reached name
  | kept {name : Name} (hname : LookedUp name) {target : Path} (hl : entries.lookup name = some (.link target))
      (hending : ending = .keep) (hreached : reached = .found (below here name) (.link target)) :
      Advance tree caller ending jump here slash entries rest reached name

theorem along_cons_eq_ok {reached : Reached}
    (h : along tree caller ending jump here slash (name :: rest) = .ok reached) :
    ∃ mode entries, tree.at? here = some (.directory mode entries) ∧ caller.may mode.search = true ∧
      Advance tree caller ending jump here slash entries rest reached name := by
  rw [along] at h
  split at h
  · cases h
  · cases h
  · cases h
  · next mode entries hhere =>
    refine ⟨mode, entries, hhere, ?_⟩
    split at h
    · cases h
    · next hs =>
      refine ⟨by simpa using hs, ?_⟩
      split at h
      · next hdot =>
        subst hdot
        exact .dot h
      · next hdot =>
        split at h
        · next hdots =>
          subst hdots
          exact .dots h
        · next hdots =>
          split at h
          · cases h
          · next hslash =>
            split at h
            · cases h
            · next hlength =>
              have hname : LookedUp name := ⟨hdot, hdots, Nat.not_lt.mp hlength⟩
              split at h
              · next hl =>
                split at h
                · next hrest =>
                  cases h
                  have hrest : rest = [] := List.isEmpty_iff.mp hrest
                  exact .missing hname hl hrest (fun hcreate => by simpa [hrest, hcreate] using hslash) rfl
                · cases h
              · next m inner hl =>
                refine .directory hname hl ?_
                cases rest with
                | nil =>
                    rw [along_nil (at?_below hhere hl)]
                    simpa using h
                | cons _ _ => simpa using h
              · next hl =>
                split at h
                · next hend =>
                  rw [Bool.and_eq_true, List.isEmpty_iff, Bool.not_eq_true'] at hend
                  cases h
                  exact .file hname hl hend.1 hend.2 rfl
                · cases h
              · next target hl =>
                split at h
                · next hkeep =>
                  cases h
                  simp only [Bool.and_eq_true, decide_eq_true_eq] at hkeep
                  exact .kept hname hl hkeep.2 rfl
                · exact .link hname hl h

/-- What is found stands where it is found. -/
theorem along_at? {node : Node}
    (hjump : ∀ here slash names, jump here slash names = .ok (.found spot node) → tree.at? spot = some node)
    (h : along tree caller .follow jump here slash names = .ok (.found spot node)) : tree.at? spot = some node := by
  induction names generalizing here with
  | nil =>
      obtain ⟨_, hhere, hreached⟩ := along_nil_eq_ok h
      cases hreached
      exact hhere
  | cons name rest ih =>
      obtain ⟨mode, entries, hhere, -, hstep⟩ := along_cons_eq_ok h
      cases hstep with
      | dot hnext => exact ih hnext
      | dots hnext => exact ih hnext
      | missing _ _ _ _ hreached => cases hreached
      | directory _ _ hnext => exact ih hnext
      | file _ hl _ _ hreached =>
          cases hreached
          exact at?_below hhere hl
      | link _ _ hnext => exact hjump _ _ _ hnext
      | kept _ _ hending _ => cases hending

theorem follow_at? {node : Node} {links : Nat}
    (h : follow tree caller .follow links here slash names = .ok (.found spot node)) : tree.at? spot = some node := by
  induction links generalizing here slash names with
  | zero => exact along_at? (fun _ _ _ h => by cases h) h
  | succ links ih => exact along_at? (fun _ _ _ h => ih h) h

/-! ## One more name -/

/-- Behind names that lead to a directory, one more name is looked up in that directory. -/
theorem along_snoc {r : Except FileError Reached}
    (hlast : ∀ k : Jump, along tree caller .follow k spot false [name] = r)
    (hjump : ∀ here slash names, jump here slash names = .ok (.found spot (.directory mode entries)) →
      jump' here false (names ++ [name]) = r)
    (h : along tree caller .follow jump here slash names = .ok (.found spot (.directory mode entries))) :
    along tree caller .follow jump' here false (names ++ [name]) = r := by
  induction names generalizing here slash with
  | nil =>
      obtain ⟨_, -, hreached⟩ := along_nil_eq_ok h
      cases hreached
      exact hlast jump'
  | cons first rest ih =>
      obtain ⟨_, _, hhere, hs, hstep⟩ := along_cons_eq_ok h
      rw [List.cons_append]
      cases hstep with
      | dot hnext =>
          rw [along_dot hhere hs]
          exact ih hnext
      | dots hnext =>
          rw [along_dots hhere hs]
          exact ih hnext
      | missing _ _ _ _ hreached => cases hreached
      | directory hname hl hnext =>
          rw [along_directory hhere hs hname hl]
          exact ih hnext
      | file _ _ _ _ hreached => cases hreached
      | link hname hl hnext =>
          rw [along_link hhere hs hname hl, List.isEmpty_eq_false_iff.mpr (by simp), ← List.append_assoc]
          exact hjump _ _ _ hnext
      | kept _ _ hending _ => cases hending

theorem follow_snoc {r : Except FileError Reached}
    (hlast : ∀ k : Jump, along tree caller .follow k spot false [name] = r) {links : Nat}
    (h : follow tree caller .follow links here slash names = .ok (.found spot (.directory mode entries))) :
    follow tree caller .follow links here false (names ++ [name]) = r := by
  induction links generalizing here slash names with
  | zero => exact along_snoc hlast (fun _ _ _ h => by cases h) h
  | succ links ih => exact along_snoc hlast (fun _ _ _ h => ih h) h

/-- Single dots can be left out of names that lead to a directory. -/
theorem along_undotted {less : List Name}
    (hjump : ∀ here slash slash' names less, Undotted names less →
      jump here slash names = .ok (.found spot (.directory mode entries)) →
      jump' here slash' less = .ok (.found spot (.directory mode entries)))
    (hless : Undotted names less)
    (h : along tree caller .follow jump here slash names = .ok (.found spot (.directory mode entries))) :
    along tree caller .follow jump' here slash' less = .ok (.found spot (.directory mode entries)) := by
  induction hless generalizing here with
  | nil =>
      obtain ⟨_, hhere, hreached⟩ := along_nil_eq_ok h
      cases hreached
      exact along_nil hhere
  | drop _ ih =>
      obtain ⟨_, _, hhere, hs, -⟩ := along_cons_eq_ok h
      rw [along_dot hhere hs] at h
      exact ih h
  | keep first hrest ih =>
      obtain ⟨_, _, hhere, hs, hstep⟩ := along_cons_eq_ok h
      cases hstep with
      | dot hnext =>
          rw [along_dot hhere hs]
          exact ih hnext
      | dots hnext =>
          rw [along_dots hhere hs]
          exact ih hnext
      | missing _ _ _ _ hreached => cases hreached
      | directory hname hl hnext =>
          rw [along_directory hhere hs hname hl]
          exact ih hnext
      | file _ _ _ _ hreached => cases hreached
      | @link _ hname target hl hnext =>
          rw [along_link hhere hs hname hl]
          exact hjump _ _ _ _ _ (hrest.append_left target.steps) hnext
      | kept _ _ hending _ => cases hending

theorem follow_undotted {less : List Name} (hless : Undotted names less) {links : Nat}
    (h : follow tree caller .follow links here slash names = .ok (.found spot (.directory mode entries))) :
    follow tree caller .follow links here slash' less = .ok (.found spot (.directory mode entries)) := by
  induction links generalizing here slash slash' names less with
  | zero => exact along_undotted (fun _ _ _ _ _ _ h => by cases h) hless h
  | succ links ih => exact along_undotted (fun _ _ _ _ _ hless h => ih hless h) hless h

/-! ## Names of directories -/

/-- The directory above a place that holds something, with what it holds on the way to that place. -/
theorem get?_append_cons {pre : List Name} {node : Node} (h : tree.root.get? (pre ++ name :: rest) = some node) :
    ∃ mode entries next, tree.root.get? pre = some (.directory mode entries) ∧ entries.lookup name = some next ∧
      next.get? rest = some node := by
  rw [Node.get?_append, Option.bind_eq_some_iff] at h
  obtain ⟨above, habove, h⟩ := h
  rw [Node.get?_cons, Option.bind_eq_some_iff] at h
  obtain ⟨next, hnext, h⟩ := h
  cases above with
  | file => cases hnext
  | link => cases hnext
  | directory mode entries => exact ⟨mode, entries, next, habove, hnext, h⟩

/-- Names lead to a directory through directories only. -/
theorem exists_directory_of_get? {next : Node} (h : next.get? names = some (.directory mode entries)) :
    ∃ m es, next = .directory m es := by
  cases names with
  | nil =>
      rw [Node.get?_nil, Option.some.injEq] at h
      exact ⟨mode, entries, h⟩
  | cons _ _ =>
      rw [Node.get?_cons] at h
      cases next with
      | file => cases h
      | link => cases h
      | directory m es => exact ⟨m, es, rfl⟩

/-- Proper names that lead to a directory in the tree are followed to it, unless a directory cannot be searched. -/
theorem along_within {pre : List Name} (hproper : ∀ n ∈ names, ProperName n)
    (h : tree.root.get? (pre ++ names) = some (.directory mode entries)) :
    along tree caller .follow jump (.within pre) slash (names ++ rest) = .error .permissionDenied ∨
      along tree caller .follow jump (.within pre) slash (names ++ rest) =
        along tree caller .follow jump (.within (pre ++ names)) slash rest := by
  induction names generalizing pre with
  | nil =>
      rw [List.append_nil]
      exact Or.inr rfl
  | cons name names ih =>
      obtain ⟨m, es, next, hpre, hl, hnext⟩ := get?_append_cons h
      have hhere : tree.at? (.within pre) = some (.directory m es) := hpre
      rw [List.cons_append]
      cases hs : caller.may m.search with
      | false => exact Or.inl (along_unsearchable hhere hs)
      | true =>
          obtain ⟨m', es', rfl⟩ := exists_directory_of_get? hnext
          rw [along_directory hhere hs (.ofProper (hproper name List.mem_cons_self)) hl]
          rw [List.append_cons] at h ⊢
          exact ih (fun n hn => hproper n (List.mem_cons_of_mem _ hn)) h

theorem follow_within {pre : List Name} (hproper : ∀ n ∈ names, ProperName n)
    (h : tree.root.get? (pre ++ names) = some (.directory mode entries)) {links : Nat} :
    follow tree caller .follow links (.within pre) slash (names ++ rest) = .error .permissionDenied ∨
      follow tree caller .follow links (.within pre) slash (names ++ rest) =
        follow tree caller .follow links (.within (pre ++ names)) slash rest := by
  cases links with
  | zero => exact along_within hproper h
  | succ links => exact along_within hproper h

/-! ## Whole paths -/

theorem resolve_eq_follow {p : Path} (hnul : 0 ∉ p.bytes) (hne : p.bytes ≠ []) (hlen : p.bytes.length < pathLimit) :
    tree.resolve caller .follow p =
      tree.follow caller .follow linkLimit (origin tree.start p) p.endsWithSlash p.steps := by
  rw [resolve, if_neg hnul, if_neg (by simpa [Path.isEmpty] using hne), if_neg (by omega)]

/-- What a path has to be like to lead anywhere. -/
theorem of_resolve_eq_ok {p : Path} {r : Reached} (h : tree.resolve caller .follow p = .ok r) :
    0 ∉ p.bytes ∧ p.bytes ≠ [] ∧ p.bytes.length < pathLimit := by
  unfold resolve at h
  split at h
  · cases h
  · next hnul =>
    split at h
    · cases h
    · next hne =>
      split at h
      · cases h
      · next hlen => exact ⟨hnul, by simpa [Path.isEmpty] using hne, by omega⟩

theorem resolve_at? {p : Path} {node : Node} (h : tree.resolve caller .follow p = .ok (.found spot node)) :
    tree.at? spot = some node := by
  obtain ⟨hnul, hne, hlen⟩ := of_resolve_eq_ok h
  rw [resolve_eq_follow hnul hne hlen] at h
  exact follow_at? h

theorem lookUp_eq_ok_iff {p : Path} {node : Node} :
    tree.lookUp p = .ok node ↔ ∃ spot, tree.resolve .user .follow p = .ok (.found spot node) := by
  unfold lookUp
  cases tree.resolve .user .follow p with
  | error e => simp [bind, Except.bind]
  | ok r => cases r <;> simp [bind, Except.bind, pure, Except.pure]

theorem isFile_eq_true_iff {p : Path} :
    tree.isFile p = true ↔ ∃ node, tree.lookUp p = .ok node ∧ node.isFile = true := by
  unfold isFile
  cases tree.lookUp p with
  | error e => simp
  | ok node => simp

theorem lookUp_eq_error {p : Path} {e : FileError} (h : tree.resolve .user .follow p = .error e) :
    tree.lookUp p = .error e := by
  rw [lookUp, h]
  rfl

/-- Where a path leads, with what it has to be like for that. -/
theorem list_of_lookUp_eq_error {p : Path} {cause : FileError} (h : tree.lookUp p = .error cause) :
    tree.list p = .error cause := by
  rw [list, h]
  rfl

theorem of_lookUp_eq_ok {p : Path} {node : Node} (h : tree.lookUp p = .ok node) :
    (0 ∉ p.bytes ∧ p.bytes ≠ [] ∧ p.bytes.length < pathLimit) ∧ ∃ spot, tree.at? spot = some node ∧
      tree.follow .user .follow linkLimit (origin tree.start p) p.endsWithSlash p.steps = .ok (.found spot node) := by
  obtain ⟨spot, h⟩ := lookUp_eq_ok_iff.mp h
  have hp := of_resolve_eq_ok h
  have hspot := resolve_at? h
  rw [resolve_eq_follow hp.1 hp.2.1 hp.2.2] at h
  exact ⟨hp, spot, hspot, h⟩

section Join

variable {p : Path} (h : tree.lookUp p = .ok (.directory mode entries)) (hname : ProperName name)
  (hlen : (p.join name).bytes.length < pathLimit)
include h hname hlen

/-- The path of an entry is followed like the path of its directory, with one more name. -/
theorem resolve_join {r : Spot → Except FileError Reached}
    (hlast : ∀ spot, tree.at? spot = some (.directory mode entries) →
      ∀ k : Jump, along tree .user .follow k spot false [name] = r spot) :
    ∃ spot, tree.resolve .user .follow (p.join name) = r spot := by
  obtain ⟨⟨hnul, hne, -⟩, spot, hspot, hfollow⟩ := of_lookUp_eq_ok h
  refine ⟨spot, ?_⟩
  rw [resolve_eq_follow (Path.nul_notMem_join hnul hname.nul_notMem) (Path.bytes_join_ne_nil p hname.nonempty) hlen,
    Path.endsWithSlash_join p hname.nonempty hname.slash_notMem, Path.steps_join hname.nonempty hname.slash_notMem,
    origin, Path.isAbsolute_join hne, ← origin]
  exact follow_snoc (hlast spot hspot) hfollow

/-- An entry of a directory that can be searched stands under its own path. -/
theorem lookUp_join {node : Node} (hs : mode.search = true) (hl : entries.lookup name = some node)
    (hnode : node.isLink = false) : tree.lookUp (p.join name) = .ok node := by
  obtain ⟨spot, hspot⟩ := resolve_join h hname hlen (r := fun spot => .ok (.found (below spot name) node))
    fun spot hspot k => by
      cases node with
      | file content m => exact along_file hspot (by simp [Caller.may, hs]) (.ofProper hname) hl
      | directory m es =>
          rw [along_directory hspot (by simp [Caller.may, hs]) (.ofProper hname) hl]
          exact along_nil (at?_below hspot hl)
      | link target => cases hnode
  exact lookUp_eq_ok_iff.mpr ⟨_, hspot⟩

/-- Nothing is reached through a directory that cannot be searched. -/
theorem lookUp_join_of_unsearchable (hs : mode.search = false) :
    tree.lookUp (p.join name) = .error .permissionDenied := by
  obtain ⟨spot, hspot⟩ := resolve_join h hname hlen (r := fun _ => .error .permissionDenied)
    fun spot hspot k => along_unsearchable hspot (by simp [Caller.may, hs])
  exact lookUp_eq_error hspot

end Join

/-- If the path of an entry leads anywhere, it leads to the entry, unless that is a link. -/
theorem lookUp_join_eq {p : Path} (h : tree.lookUp p = .ok (.directory mode entries)) (hname : ProperName name)
    {node found : Node} (hl : entries.lookup name = some node) (hnode : node.isLink = false)
    (hf : tree.lookUp (p.join name) = .ok found) : found = node := by
  have hlen := (of_lookUp_eq_ok hf).1.2.2
  cases hs : mode.search with
  | false =>
      rw [lookUp_join_of_unsearchable h hname hlen hs] at hf
      cases hf
  | true =>
      rw [lookUp_join h hname hlen hs hl hnode, Except.ok.injEq] at hf
      exact hf.symm

/-! ## Directories and their entries -/

theorem list_eq_ok_iff {p : Path} :
    tree.list p = .ok entries ↔ ∃ mode, mode.read = true ∧ tree.lookUp p = .ok (.directory mode entries) := by
  unfold list
  cases tree.lookUp p with
  | error e => simp [bind, Except.bind]
  | ok node =>
      cases node with
      | file content m => simp [bind, Except.bind]
      | link target => simp [bind, Except.bind]
      | directory m es =>
          simp only [bind, Except.bind, pure, Except.pure, Except.ok.injEq, Node.directory.injEq]
          split
          · next hr => simp [hr]
          · next hr =>
            simp only [reduceCtorEq, false_iff]
            rintro ⟨_, hread, rfl, -⟩
            exact hr hread

/-- What a directory of a well-formed tree shows is well-formed. -/
theorem WellFormed.of_list (ht : tree.WellFormed) {p : Path} (hl : tree.list p = .ok entries) {node : Node}
    (hentry : entries.lookup name = some node) : ProperName name ∧ node.WellFormed := by
  obtain ⟨mode, -, hlook⟩ := list_eq_ok_iff.mp hl
  obtain ⟨-, spot, hspot, -⟩ := of_lookUp_eq_ok hlook
  exact (ht.at? hspot).entry hentry

/-- The absolute form of a path to a directory leads to the same directory or nowhere. -/
theorem lookUp_absolute (ht : tree.WellFormed) {p : Path} (hcwd : p.isAbsolute = true ∨ tree.cwdRemoved = false)
    (h : tree.lookUp p = .ok (.directory mode entries)) {found : Node}
    (hf : tree.lookUp (p.absolute tree.cwdPath) = .ok found) : found = .directory mode entries := by
  obtain ⟨-, spot, -, hfollow⟩ := of_lookUp_eq_ok h
  obtain ⟨-, spot', -, hfound⟩ := of_lookUp_eq_ok hf
  have habs : (p.absolute tree.cwdPath).isAbsolute = true :=
    Path.isAbsolute_absolute p (Path.isAbsolute_ofNames tree.cwd)
  rw [origin, if_pos habs, Path.steps_absolute] at hfound
  have hplain : tree.follow .user .follow linkLimit (origin tree.start p) (p.absolute tree.cwdPath).endsWithSlash
      p.components = .ok (.found spot (.directory mode entries)) :=
    follow_undotted (Path.undotted_components p) hfollow
  suffices hsame : tree.follow .user .follow linkLimit (origin tree.start p) (p.absolute tree.cwdPath).endsWithSlash
      p.components = .ok (.found spot' found) by
    rw [hplain, Except.ok.injEq, Reached.found.injEq] at hsame
    exact hsame.2.symm
  cases hp : p.isAbsolute with
  | true =>
      rw [Path.steps_absoluteStart_of_isAbsolute hp, List.nil_append] at hfound
      rw [origin, if_pos hp]
      exact hfound
  | false =>
      have hpresent : tree.cwdRemoved = false := by simpa [hp] using hcwd
      obtain ⟨m, es, hdir⟩ := ht.cwd hpresent
      have hproper := (ht.root.get? hdir).1
      rw [Path.absoluteStart_of_relative hp, cwdPath, Path.steps_ofNames hproper] at hfound
      rw [origin, if_neg (by simp [hp]), start, if_neg (by simp [hpresent])]
      rcases follow_within hproper (show tree.root.get? ([] ++ tree.cwd) = _ from hdir) with hdenied | hthere
      · rw [hdenied] at hfound
        cases hfound
      · rw [hthere] at hfound
        exact hfound

end BuilderAudit.FileTree
