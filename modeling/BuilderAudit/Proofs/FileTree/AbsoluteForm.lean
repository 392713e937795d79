import BuilderAudit.Proofs.FileTree.Following
import BuilderAudit.Proofs.Path.Absolute

/-!
# Where absolute forms lead

An absolute form names the directories on the way from the root to the current directory, leaves out single dots and
keeps double ones, so that it leads where its path leads. Two things can stand in the way: a directory above the current
one that cannot be searched, and the limit for the length of a path.

* `FileTree.CwdReachable` : the current directory can be reached from the root;
* `along_through`, `follow_through` : names of directories that can be searched are followed to the last;
* `resolve_absolute` : the absolute form of a path to a directory leads to that directory, if it is short enough;
* `resolve_of_steps` : so do absolute paths of the same names.
-/

namespace BuilderAudit.FileTree

variable {tree : FileTree} {caller : Caller} {jump : Jump} {spot : Spot} {slash : Bool} {mode : Mode}
  {entries : List (Name × Node)} {names rest : List Name} {p q : Path}

/-- The current directory is there, and the directories above it can be searched. -/
structure CwdReachable (tree : FileTree) : Prop where
  present : tree.cwdRemoved = false
  searchable : ∀ front name back, tree.cwd = front ++ name :: back → ∀ mode entries,
    tree.root.get? front = some (.directory mode entries) → mode.search = true

/-- One directory stands above a current directory in the root. -/
theorem CwdReachable.of_name {name : Name} (hcwd : tree.cwd = [name]) (hpresent : tree.cwdRemoved = false)
    (hroot : tree.root = .directory mode entries) (hs : mode.search = true) : tree.CwdReachable := by
  refine ⟨hpresent, fun front n back hsplit m es hfront => ?_⟩
  obtain rfl : front = [] := by
    cases front with
    | nil => rfl
    | cons first front => simp [hcwd] at hsplit
  rw [Node.get?_nil, hroot] at hfront
  cases hfront
  exact hs

/-! ## Names of directories that can be searched -/

theorem along_through {pre : List Name} (hproper : ∀ n ∈ names, ProperName n)
    (h : tree.root.get? (pre ++ names) = some (.directory mode entries))
    (hsearch : ∀ front name back, names = front ++ name :: back → ∀ m es,
      tree.root.get? (pre ++ front) = some (.directory m es) → caller.may m.search = true) :
    along tree caller .follow jump (.within pre) slash (names ++ rest) =
      along tree caller .follow jump (.within (pre ++ names)) slash rest := by
  induction names generalizing pre with
  | nil => rw [List.append_nil, List.nil_append]
  | cons name names ih =>
      obtain ⟨m, es, next, hpre, hl, hnext⟩ := get?_append_cons h
      obtain ⟨m', es', rfl⟩ := exists_directory_of_get? hnext
      have hhere : tree.at? (.within pre) = some (.directory m es) := hpre
      have hs : caller.may m.search = true := hsearch [] name names rfl m es (by rw [List.append_nil, hpre])
      rw [List.cons_append, along_directory hhere hs (.ofProper (hproper name List.mem_cons_self)) hl]
      rw [List.append_cons] at h ⊢
      refine ih (fun n hn => hproper n (List.mem_cons_of_mem _ hn)) h fun front n back hnames m es hfront => ?_
      refine hsearch (name :: front) n back (by rw [hnames, List.cons_append]) m es ?_
      rwa [List.append_cons]

theorem follow_through (hproper : ∀ n ∈ names, ProperName n)
    (h : tree.root.get? names = some (.directory mode entries))
    (hsearch : ∀ front name back, names = front ++ name :: back → ∀ m es,
      tree.root.get? front = some (.directory m es) → caller.may m.search = true) {links : Nat} :
    follow tree caller .follow links (.within []) slash (names ++ rest) =
      follow tree caller .follow links (.within names) slash rest := by
  cases links with
  | zero => exact along_through hproper h hsearch
  | succ links => exact along_through hproper h hsearch

/-! ## Whole paths -/

/-- A path that is too long leads nowhere. -/
theorem lookUp_of_long (hnul : 0 ∉ p.bytes) (hlen : pathLimit ≤ p.bytes.length) :
    tree.lookUp p = .error .nameTooLong := by
  have hne : p.bytes ≠ [] := by
    intro hnil
    rw [hnil] at hlen
    exact absurd hlen (by decide)
  refine lookUp_eq_error ?_
  rw [resolve, if_neg hnul, if_neg (by simpa [Path.isEmpty] using hne), if_pos hlen]

/-- Absolute paths of the same names lead to the same directory. -/
theorem resolve_of_steps (hp : p.isAbsolute = true) (hq : q.isAbsolute = true) (hsteps : p.steps = q.steps)
    (hnul : 0 ∉ q.bytes) (hlen : q.bytes.length < pathLimit)
    (h : tree.resolve caller .follow p = .ok (.found spot (.directory mode entries))) :
    tree.resolve caller .follow q = .ok (.found spot (.directory mode entries)) := by
  obtain ⟨hnul', hne', hlen'⟩ := of_resolve_eq_ok h
  rw [resolve_eq_follow hnul' hne' hlen', origin, if_pos hp, hsteps] at h
  rw [resolve_eq_follow hnul (Path.bytes_ne_nil_of_isAbsolute hq) hlen, origin, if_pos hq]
  exact follow_undotted (.refl _) h

section Absolute

variable (ht : tree.WellFormed) (hcwd : tree.CwdReachable)
include ht hcwd

theorem CwdReachable.proper : ∀ name ∈ tree.cwd, ProperName name := by
  obtain ⟨_, _, hdir⟩ := ht.cwd hcwd.present
  exact (ht.root.get? hdir).1

theorem CwdReachable.nul_notMem_absolute (hnul : 0 ∉ p.bytes) : 0 ∉ (p.absolute tree.cwdPath).bytes :=
  Path.nul_notMem_absolute hnul fun name hname => (hcwd.proper ht name hname).nul_notMem

/-- The absolute form of a path to a directory leads to that directory, if it is short enough. -/
theorem resolve_absolute (h : tree.resolve .user .follow p = .ok (.found spot (.directory mode entries)))
    (hlen : (p.absolute tree.cwdPath).bytes.length < pathLimit) :
    tree.resolve .user .follow (p.absolute tree.cwdPath) = .ok (.found spot (.directory mode entries)) := by
  obtain ⟨hnul, hne, hshort⟩ := of_resolve_eq_ok h
  obtain ⟨m, es, hdir⟩ := ht.cwd hcwd.present
  have habs : (p.absolute tree.cwdPath).isAbsolute = true :=
    Path.isAbsolute_absolute p (Path.isAbsolute_ofNames tree.cwd)
  rw [resolve_eq_follow hnul hne hshort] at h
  rw [resolve_eq_follow (hcwd.nul_notMem_absolute ht hnul) (Path.bytes_ne_nil_of_isAbsolute habs) hlen, origin,
    if_pos habs, Path.steps_absolute]
  have hplain : tree.follow .user .follow linkLimit (origin tree.start p) (p.absolute tree.cwdPath).endsWithSlash
      p.components = .ok (.found spot (.directory mode entries)) :=
    follow_undotted (Path.undotted_components p) h
  cases hp : p.isAbsolute with
  | true =>
      rw [origin, if_pos hp] at hplain
      rw [Path.steps_absoluteStart_of_isAbsolute hp, List.nil_append, hplain]
  | false =>
      have hsearch : ∀ front name back, tree.cwd = front ++ name :: back → ∀ m es,
          tree.root.get? front = some (.directory m es) → Caller.user.may m.search = true :=
        fun front name back hsplit m es hfront => by
          simp [Caller.may, hcwd.searchable front name back hsplit m es hfront]
      rw [origin, if_neg (by simp [hp]), start, if_neg (by simp [hcwd.present])] at hplain
      rw [Path.absoluteStart_of_relative hp, cwdPath, Path.steps_ofNames (hcwd.proper ht),
        follow_through (hcwd.proper ht) hdir hsearch]
      exact hplain

end Absolute

end BuilderAudit.FileTree
