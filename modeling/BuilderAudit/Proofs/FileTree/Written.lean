import BuilderAudit.Proofs.FileTree.Frame

/-!
# Files that have been written

Writing puts a file in one place of the tree and leaves all others as they are. The path that led there before leads
there afterwards, also through links, so that what is written is what is read.

* `FileTree.Written` : two trees that differ in one file, to which paths lead (`resolve_written`);
* `filePut_of_write` : writing puts a file where the path leads;
* `read_write` : what is written is read.
-/

namespace BuilderAudit

/-! ## Following names behind the change -/

/-- The place of the file that names lead to or find room for. -/
def Reached.filePlace? : Reached → Option (List Name)
  | .found (.within names) (.file ..) => some names
  | .missing (.within names) name => some (names ++ [name])
  | _ => none

namespace FileTree

/-- Two trees that are alike but for one place, where the second has a file with some content. In the first, that place
holds a file or nothing. -/
structure Written (before after : FileTree) (place : List Name) (content : List UInt8) (mode : Mode) : Prop where
  cwd : after.cwd = before.cwd
  cwdRemoved : after.cwdRemoved = before.cwdRemoved
  there : after.root.get? place = some (.file content mode)
  free : ∀ inner ∈ before.root.get? place, inner.isFile = true
  others : ∀ other ≠ place, Option.Rel Node.Alike (before.root.get? other) (after.root.get? other)

variable {tree before after : FileTree} {caller : Caller} {place : List Name} {content : List UInt8} {mode : Mode}
  {jump jump' : Jump} {here : Spot} {slash : Bool} {name : Name} {names rest : List Name} {reached : Reached}

namespace Written

variable (h : Written before after place content mode)
include h

theorem at?_directory {dir : Mode} {entries : List (Name × Node)}
    (hhere : before.at? here = some (.directory dir entries)) :
    ∃ entries', after.at? here = some (.directory dir entries') := by
  cases here with
  | removed => exact ⟨entries, hhere⟩
  | within names =>
      have hhere : before.root.get? names = some (.directory dir entries) := hhere
      have hne : names ≠ place := by
        rintro rfl
        cases h.free _ hhere
      have hthere := h.others names hne
      rw [hhere] at hthere
      show ∃ entries', after.root.get? names = _
      generalize after.root.get? names = node? at hthere ⊢
      cases hthere with
      | some hnode =>
          cases hnode with
          | directory => exact ⟨_, rfl⟩

section Entries

variable {dir dir' : Mode} {entries entries' : List (Name × Node)}
  (hhere : before.at? here = some (.directory dir entries)) (hthere : after.at? here = some (.directory dir' entries'))
include hhere hthere

theorem lookup_place (hplace : below here name = .within place) : entries'.lookup name = some (.file content mode) := by
  cases here with
  | removed => cases hplace
  | within names =>
      have hthere : after.root.get? names = some (.directory dir' entries') := hthere
      rw [← h.there, ← Spot.within.inj hplace, Node.get?_append, hthere, Option.bind_some, Node.get?_singleton,
        Node.entry?_directory]

/-- What is no file is not in the place that was written. -/
theorem lookup_alike {node : Node} (hl : entries.lookup name = some node) (hnode : node.isFile = false) :
    ∃ node', entries'.lookup name = some node' ∧ node.Alike node' := by
  cases here with
  | removed =>
      rw [at?, Node.emptyDirectory, Option.some.injEq, Node.directory.injEq] at hhere
      rw [← hhere.2] at hl
      cases hl
  | within names =>
      have hhere : before.root.get? names = some (.directory dir entries) := hhere
      have hthere : after.root.get? names = some (.directory dir' entries') := hthere
      have hbefore : before.root.get? (names ++ [name]) = some node := by
        rw [Node.get?_append, hhere, Option.bind_some, Node.get?_singleton, Node.entry?_directory, hl]
      have hne : names ++ [name] ≠ place := by
        rintro rfl
        rw [h.free node hbefore] at hnode
        cases hnode
      have hothers := h.others _ hne
      rw [hbefore, Node.get?_append, hthere, Option.bind_some, Node.get?_singleton, Node.entry?_directory] at hothers
      generalize entries'.lookup name = node? at hothers ⊢
      cases hothers with
      | some hnode => exact ⟨_, rfl, hnode⟩

end Entries

end Written

theorem below_of_missing (h : (Reached.missing here name).filePlace? = some place) :
    below here name = .within place := by
  cases here with
  | removed => cases h
  | within names => rw [below, Option.some.inj h]

theorem below_of_found {spot : Spot} (h : (Reached.found spot (.file content mode)).filePlace? = some place) :
    spot = .within place := by
  cases spot with
  | removed => cases h
  | within names => rw [Option.some.inj h]

/-- Names that lead to the place of the file, or find room for it there, lead to the file. -/
theorem along_written (h : Written before after place content mode) (hplace : reached.filePlace? = some place)
    (hjump : ∀ here slash names, jump here slash names = .ok reached →
      jump' here slash names = .ok (.found (.within place) (.file content mode)))
    (hr : along before caller .create jump here slash names = .ok reached) :
    along after caller .follow jump' here slash names = .ok (.found (.within place) (.file content mode)) := by
  induction names generalizing here with
  | nil =>
      obtain ⟨inner, -, rfl⟩ := along_nil_eq_ok hr
      cases here with
      | removed => cases inner <;> cases hplace
      | within names =>
          cases inner with
          | file =>
              obtain rfl := Option.some.inj hplace
              exact along_nil h.there
          | directory => cases hplace
          | link => cases hplace
  | cons name rest ih =>
      obtain ⟨dir, entries, hhere, hs, hstep⟩ := along_cons_eq_ok hr
      obtain ⟨entries', hthere⟩ := h.at?_directory hhere
      cases hstep with
      | dot hnext =>
          rw [along_dot hthere hs]
          exact ih hnext
      | dots hnext =>
          have habove : after.above here = before.above here := by cases here <;> simp [above, h.cwd]
          rw [along_dots hthere hs, habove]
          exact ih hnext
      | missing hname _ hrest hslash hreached =>
          have hbelow := below_of_missing (hreached ▸ hplace)
          rw [hrest, hslash rfl, along_file hthere hs hname (h.lookup_place hhere hthere hbelow), hbelow]
      | directory hname hl hnext =>
          obtain ⟨_, hl', halike⟩ := h.lookup_alike hhere hthere hl rfl
          cases halike with
          | directory =>
              rw [along_directory hthere hs hname hl']
              exact ih hnext
      | file hname _ hrest hslash hreached =>
          have hbelow := below_of_found (hreached ▸ hplace)
          rw [hrest, hslash, along_file hthere hs hname (h.lookup_place hhere hthere hbelow), hbelow]
      | link hname hl hnext =>
          obtain ⟨_, hl', halike⟩ := h.lookup_alike hhere hthere hl rfl
          cases halike with
          | link =>
              rw [along_link hthere hs hname hl']
              exact hjump _ _ _ hnext
      | kept _ _ hending _ => cases hending

theorem follow_written (h : Written before after place content mode) (hplace : reached.filePlace? = some place)
    {links : Nat} (hr : follow before caller .create links here slash names = .ok reached) :
    follow after caller .follow links here slash names = .ok (.found (.within place) (.file content mode)) := by
  induction links generalizing here slash names with
  | zero => exact along_written h hplace (fun _ _ _ h => by cases h) hr
  | succ links ih => exact along_written h hplace (fun _ _ _ h => ih h) hr

theorem resolve_written (h : Written before after place content mode) (hplace : reached.filePlace? = some place)
    {p : Path} (hr : before.resolve caller .create p = .ok reached) :
    after.resolve caller .follow p = .ok (.found (.within place) (.file content mode)) := by
  unfold resolve at hr ⊢
  rw [show after.start = before.start by rw [start, start, h.cwd, h.cwdRemoved]]
  split_ifs at hr ⊢ with hnul hempty hlength
  exact follow_written h hplace hr

/-! ## Writing -/

theorem Written.refl (h : tree.root.get? place = some (.file content mode)) : Written tree tree place content mode where
  cwd := rfl
  cwdRemoved := rfl
  there := h
  free inner hinner := by
    rw [h] at hinner
    cases hinner
    rfl
  others other _ := by
    cases tree.root.get? other with
    | none => exact .none
    | some node => exact .some (.refl node)

theorem FilePut.written (h : FilePut before after place content mode) : Written before after place content mode where
  cwd := h.changed.cwd
  cwdRemoved := h.changed.cwdRemoved
  there := h.there
  free := by
    rcases h.old with ⟨_, hold⟩ | ⟨hnothing, -⟩
    · rw [hold]
      rintro _ ⟨⟩
      rfl
    · rw [hnothing]
      exact fun _ hnone => nomatch hnone
  others other hne := Node.alike_of_twin (h.changed.others other hne)

/-- Writing puts a file where the path leads. -/
theorem filePut_of_write {p : Path} (ht : tree.WellFormed) (h : tree.write caller p content = .ok after) :
    ∃ reached place mode, tree.resolve caller .create p = .ok reached ∧ reached.filePlace? = some place ∧
      FilePut tree after place content mode := by
  rcases write_eq_ok h with ⟨names, name, hr, -, rfl⟩ | ⟨names, old, mode, hr, -, rfl⟩
  · obtain ⟨-, dir, entries, hdir, hl⟩ := resolve_sound ht hr
    exact ⟨_, names ++ [name], Mode.file, hr, rfl, filePut_add ht hdir hl⟩
  · exact ⟨_, names, mode, hr, rfl, filePut_replace ht (resolve_sound ht hr)⟩

/-- What has been written under a path is read under that path, unless the file was there before and cannot be read. -/
theorem read_write {p : Path} (ht : tree.WellFormed)
    (hold : ∀ old mode, tree.lookUp p = .ok (.file old mode) → mode.read = true)
    (h : tree.write .user p content = .ok after) : after.read p = .ok content := by
  obtain ⟨reached, place, mode, hr, hplace, hput⟩ := filePut_of_write ht h
  have hread : mode.read = true := by
    rcases hput.old with ⟨old, hthere⟩ | ⟨-, rfl⟩
    · exact hold old mode (lookUp_eq_ok_iff.mpr ⟨_, resolve_written (.refl hthere) hplace hr⟩)
    · rfl
  have hlook : after.lookUp p = .ok (.file content mode) :=
    lookUp_eq_ok_iff.mpr ⟨_, resolve_written hput.written hplace hr⟩
  rw [read, hlook]
  simp only [bind, Except.bind, hread, if_true, pure, Except.pure]

end FileTree

end BuilderAudit
