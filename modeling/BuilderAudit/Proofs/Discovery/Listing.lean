import BuilderAudit.Proofs.Discovery.Candidates
import Mathlib

/-!
# Directories that cannot be listed

A directory that cannot be listed costs what lies below it, and nothing else. To say so, a walk is described for other
listings than that of the tree: `discoverBy tree.listing.lenient` is a discovery for which such a directory is empty.

* `Walk.visitsBy`, `discoverBy` : walks and discoveries if directories show a listing;
* `visitsBy_listing`, `discoverBy_listing` : for the listing of the tree these are its walks and discoveries;
* `visitsBy_lenient` : what a walk meets if it cannot fail;
* `Walk.Unread` : the directories that a walk comes to and cannot list (`Walk.exists_unread`);
* `discover_isolated` : what they mean for a discovery (`Discovery.Isolated`).
-/

namespace BuilderAudit

/-- What directories show: the names of their entries, or why they cannot be listed. -/
abbrev Listing := Path → Except FileError (List Name)

def FileTree.listing (tree : FileTree) : Listing := fun path => (tree.list path).map fun entries => entries.map Prod.fst

/-- The listing in which the directories are empty that cannot be listed. -/
def Listing.lenient (listing : Listing) : Listing := fun path =>
  match listing path with
  | .ok names => .ok names
  | .error _ => .ok []

namespace Walk

mutual

/-- What a walk meets at a node and below it if directories show a listing. All else is as in the tree. -/
def visitsBy (listing : Listing) (tree : FileTree) (path : Path) (name : Name) : Node → List Visit
  | .file _ _ => [.file path name]
  | .link _ => if tree.isFile path then [.file path name] else []
  | .directory _ entries =>
    match listing path with
    | .error cause => [.unreadable path cause]
    | .ok names => inOrder ((entryVisitsBy listing tree path entries).filter fun e => e.1 ∈ names)
termination_by structural node => node

def entryVisitsBy (listing : Listing) (tree : FileTree) (path : Path) : List (Name × Node) → List (Name × List Visit)
  | [] => []
  | (name, node) :: entries =>
    (name, visitsBy listing tree (path.join name) name node) :: entryVisitsBy listing tree path entries
termination_by structural entries => entries

end

def ofRootBy (listing : Listing) (tree : FileTree) (root : Path) : List Visit :=
  match tree.lookUp root with
  | .ok node => visitsBy listing tree root [] node
  | .error _ =>
    match listing root with
    | .error cause => [.unreadable root cause]
    | .ok _ => []

end Walk

def discoverBy (listing : Listing) (tree : FileTree) (root : Path) (pattern : FilePattern) (policy : ReadErrorPolicy) :
    Except ScanError Discovery := do
  checkRoot tree root
  let root ← absoluteRoot tree root
  Discovery.ofVisits pattern policy (Walk.ofRootBy listing tree root)

variable {tree : FileTree} {root path : Path} {pattern : FilePattern} {policy : ReadErrorPolicy} {listing : Listing}
  {entries : List (Name × Node)} {names : List Name} {cause : FileError}

namespace Walk

/-! ## Walks by a listing -/

theorem entryVisitsBy_eq_map (listing : Listing) (tree : FileTree) (path : Path) (entries : List (Name × Node)) :
    entryVisitsBy listing tree path entries =
      entries.map fun e => (e.1, visitsBy listing tree (path.join e.1) e.1 e.2) := by
  induction entries with
  | nil => rfl
  | cons e entries ih =>
      rw [entryVisitsBy, ih]
      rfl

theorem visitsBy_of_listed {mode : Mode} (hl : listing path = .ok names) (name : Name) :
    visitsBy listing tree path name (.directory mode entries) =
      inOrder ((entries.filter fun e => e.1 ∈ names).map fun e =>
        (e.1, visitsBy listing tree (path.join e.1) e.1 e.2)) := by
  simp only [visitsBy, hl, entryVisitsBy_eq_map, List.filter_map]
  rfl

theorem visitsBy_of_unlisted {mode : Mode} (hl : listing path = .error cause) (name : Name) :
    visitsBy listing tree path name (.directory mode entries) = [.unreadable path cause] := by
  rw [visitsBy, hl]

theorem listing_eq_ok (hl : tree.list path = .ok entries) : tree.listing path = .ok (entries.map Prod.fst) := by
  rw [FileTree.listing, hl]
  rfl

theorem listing_eq_error (hl : tree.list path = .error cause) : tree.listing path = .error cause := by
  rw [FileTree.listing, hl]
  rfl

/-- By the listing of the tree, a walk meets what it meets in the tree. -/
theorem visitsBy_listing {node : Node} (hwf : node.WellFormed) {name : Name}
    (hpath : node.isDirectory = true → ∀ found, tree.lookUp path = .ok found → found = node) :
    visitsBy tree.listing tree path name node = visits tree path name node := by
  induction hwf generalizing path name with
  | file content mode => rfl
  | link target => rfl
  | @directory mode entries nodup proper nodes ih =>
      cases hl : tree.list path with
      | error cause => rw [visitsBy_of_unlisted (listing_eq_error hl), visits_of_unlisted hl]
      | ok es =>
          obtain ⟨m, -, hlook⟩ := FileTree.list_eq_ok_iff.mp hl
          obtain ⟨rfl, rfl⟩ : m = mode ∧ es = entries := by simpa using hpath rfl _ hlook
          have hall : (es.filter fun e => e.1 ∈ es.map Prod.fst) = es :=
            List.filter_eq_self.mpr fun e he => decide_eq_true (List.mem_map_of_mem he)
          rw [visitsBy_of_listed (listing_eq_ok hl), visits_of_listed hl, hall]
          congr 1
          refine List.map_congr_left fun e he => ?_
          rw [ih e he fun hdir found hfound => FileTree.lookUp_join_eq hlook (proper e he) (lookup_of_mem nodup he)
            (Node.isLink_of_isDirectory hdir) hfound]

theorem ofRootBy_listing (ht : tree.WellFormed) : ofRootBy tree.listing tree root = ofRoot tree root := by
  unfold ofRootBy ofRoot
  cases hlook : tree.lookUp root with
  | error cause =>
      simp only [listing_eq_error (FileTree.list_of_lookUp_eq_error hlook)]
  | ok node =>
      obtain ⟨-, spot, hspot, -⟩ := FileTree.of_lookUp_eq_ok hlook
      refine visitsBy_listing (ht.at? hspot) fun _ found hfound => ?_
      rw [hlook, Except.ok.injEq] at hfound
      exact hfound.symm

/-- Visits can be left out before or after they are put in order. -/
theorem inOrder_filter (keep : Visit → Bool) (visited : List (Name × List Visit)) :
    inOrder (visited.map fun e => (e.1, e.2.filter keep)) = (inOrder visited).filter keep := by
  have hsort := List.map_mergeSort (r := fun a b => decide (a.1 ≤ b.1)) (s := fun a b => decide (a.1 ≤ b.1))
    (f := fun e : Name × List Visit => (e.1, e.2.filter keep)) (l := visited) fun a _ b _ => rfl
  rw [inOrder, inOrder, ← hsort, List.filter_flatMap, List.flatMap_map]

/-- Without failures a walk meets the same files. -/
theorem visitsBy_lenient {node : Node} (hwf : node.WellFormed) (path : Path) (name : Name) :
    visitsBy listing.lenient tree path name node =
      (visitsBy listing tree path name node).filter fun v => v.failure?.isNone := by
  induction hwf generalizing path name with
  | file content mode => rfl
  | link target =>
      rw [visitsBy, visitsBy]
      split <;> rfl
  | @directory mode entries nodup proper nodes ih =>
      cases hl : listing path with
      | error cause =>
          have hlenient : listing.lenient path = .ok [] := by simp only [Listing.lenient, hl]
          rw [visitsBy_of_unlisted hl, visitsBy_of_listed hlenient]
          simp [inOrder, Visit.failure?]
      | ok names =>
          have hlenient : listing.lenient path = .ok names := by simp only [Listing.lenient, hl]
          rw [visitsBy_of_listed hl, visitsBy_of_listed hlenient, ← inOrder_filter, List.map_map]
          congr 1
          refine List.map_congr_left fun e he => ?_
          rw [ih e (List.mem_filter.mp he).1]
          rfl

theorem ofRootBy_lenient (ht : tree.WellFormed) :
    ofRootBy tree.listing.lenient tree root = (ofRoot tree root).filter fun v => v.failure?.isNone := by
  rw [← ofRootBy_listing ht, ofRootBy, ofRootBy]
  cases hlook : tree.lookUp root with
  | error cause =>
      simp [Listing.lenient, listing_eq_error (FileTree.list_of_lookUp_eq_error hlook), Visit.failure?]
  | ok node =>
      obtain ⟨-, spot, hspot, -⟩ := FileTree.of_lookUp_eq_ok hlook
      exact visitsBy_lenient (ht.at? hspot) root []

/-! ## The directories that cannot be listed -/

def below (root path : Path) : List Name := path.components.drop root.components.length

theorem below_joinAll (hnames : ∀ name ∈ names, ProperName name) : below root (root.joinAll names) = names := by
  rw [below, Path.components_joinAll fun name hn => .ofProper (hnames name hn), List.drop_left]

/-- Directories have proper names only. -/
theorem Enters.proper (ht : tree.WellFormed) (h : Enters tree root names) : ∀ name ∈ names, ProperName name := by
  induction h with
  | root => simp
  | into _ listed found ih =>
      have hname := (ht.of_list listed found).1
      simpa [or_imp, forall_and] using ⟨ih, hname⟩

/-- The directories that a walk comes to and cannot list, and why, in the order in which it meets them: that is the
order of their names below the root. -/
structure Unread (tree : FileTree) (root : Path) (unread : List (List Name × FileError)) : Prop where
  mem_iff : ∀ names cause, (names, cause) ∈ unread ↔
    Enters tree root names ∧ tree.list (root.joinAll names) = .error cause
  increasing : unread.Pairwise fun a b => a.1 < b.1
  met : (ofRoot tree root).filterMap Visit.failure? = unread.map fun u => (root.joinAll u.1, u.2)

theorem failure?_eq_some_iff {v : Visit} : v.failure? = some (path, cause) ↔ v = .unreadable path cause := by
  cases v <;> simp [Visit.failure?]

/-- What a walk cannot list, as it meets it. -/
theorem mem_failures_iff (ht : tree.WellFormed) (hdir : ∀ node, tree.lookUp root = .ok node → node.isDirectory = true) :
    (path, cause) ∈ (ofRoot tree root).filterMap Visit.failure? ↔
      ∃ names, Enters tree root names ∧ tree.list path = .error cause ∧ path = root.joinAll names := by
  simp only [List.mem_filterMap, failure?_eq_some_iff, exists_eq_right, mem_ofRoot_iff ht hdir]
  constructor
  · intro h
    cases h with
    | unreadable entered unlisted => exact ⟨_, entered, unlisted, rfl⟩
  · rintro ⟨names, hentered, hunlisted, rfl⟩
    exact .unreadable hentered hunlisted

theorem lt_of_append_lt {front a b : List Name} (h : front ++ a < front ++ b) : a < b := by
  by_contra hnot
  rcases List.le_iff_lt_or_eq.mp (List.not_lt.mp hnot) with hlt | rfl
  · exact List.lt_asymm h (List.append_left_lt hlt)
  · exact List.lt_irrefl _ h

theorem exists_unread (ht : tree.WellFormed) (hdir : ∀ node, tree.lookUp root = .ok node → node.isDirectory = true) :
    ∃ unread, Unread tree root unread := by
  have hfailure : ∀ f ∈ (ofRoot tree root).filterMap Visit.failure?, Enters tree root (below root f.1) ∧
      tree.list f.1 = .error f.2 ∧ f.1 = root.joinAll (below root f.1) := by
    intro f hf
    obtain ⟨names, hentered, hunlisted, hpath⟩ := (mem_failures_iff ht hdir).mp hf
    have hbelow : below root f.1 = names := hpath ▸ below_joinAll (hentered.proper ht)
    exact ⟨hbelow ▸ hentered, hunlisted, hbelow ▸ hpath⟩
  refine ⟨((ofRoot tree root).filterMap Visit.failure?).map fun f => (below root f.1, f.2),
    fun names cause => ?_, ?_, ?_⟩
  · rw [List.mem_map]
    constructor
    · rintro ⟨f, hf, heq⟩
      obtain ⟨hentered, hunlisted, hpath⟩ := hfailure f hf
      obtain ⟨rfl, rfl⟩ := Prod.mk.inj heq
      exact ⟨hentered, hpath ▸ hunlisted⟩
    · rintro ⟨hentered, hunlisted⟩
      refine ⟨(root.joinAll names, cause), (mem_failures_iff ht hdir).mpr ⟨names, hentered, hunlisted, rfl⟩, ?_⟩
      rw [below_joinAll (hentered.proper ht)]
  · have hpaths : ((ofRoot tree root).filterMap Visit.failure?).Pairwise fun a b =>
        a.1.components < b.1.components := by
      refine (ofRoot_pairwise ht root).filterMap _ fun v w hvw a ha b hb => ?_
      obtain rfl := failure?_eq_some_iff.mp ha
      obtain rfl := failure?_eq_some_iff.mp hb
      exact hvw
    rw [List.pairwise_map]
    refine hpaths.imp_of_mem fun {a b} ha hb hab => ?_
    obtain ⟨hentered, -, hpath⟩ := hfailure a ha
    obtain ⟨hentered', -, hpath'⟩ := hfailure b hb
    have hbelow : ∀ {names}, Enters tree root names → (root.joinAll names).components = root.components ++ names :=
      fun h => Path.components_joinAll fun name hn => .ofProper (h.proper ht name hn)
    rw [hpath, hpath', hbelow hentered, hbelow hentered'] at hab
    exact lt_of_append_lt hab
  · rw [List.map_map]
    refine (List.map_id _).symm.trans (List.map_congr_left fun f hf => ?_)
    exact Prod.ext (hfailure f hf).2.2 rfl

end Walk

/-! ## Discoveries by a listing -/

/-- By the listing of the tree, a discovery is that in the tree. -/
theorem discoverBy_listing (ht : tree.WellFormed) :
    discoverBy tree.listing tree root pattern policy = (discover tree root pattern policy).1 := by
  unfold discoverBy discover
  cases checkRoot tree root with
  | error e => rfl
  | ok _ =>
      cases absoluteRoot tree root with
      | error e => rfl
      | ok abs =>
          simp only [bind, Except.bind, Walk.ofRootBy_listing ht]
          cases Discovery.ofVisits pattern policy (Walk.ofRoot tree abs) <;> rfl

theorem discoverBy_of_checkRoot (hcheck : checkRoot tree root = .ok ()) (hcwd : tree.cwdRemoved = false) :
    discoverBy listing tree root pattern policy =
      Discovery.ofVisits pattern policy (Walk.ofRootBy listing tree (root.absolute tree.cwdPath)) := by
  rw [discoverBy, hcheck, absoluteRoot_eq_ok_iff.mpr ⟨Or.inr hcwd, rfl⟩]
  rfl

/-! ## The failures among the visits -/

/-- Failures are no candidates. -/
theorem filterMap_candidate_filter (visits : List Visit) :
    (visits.filter fun v => v.failure?.isNone).filterMap (Visit.candidate? pattern) =
      visits.filterMap (Visit.candidate? pattern) := by
  rw [List.filterMap_filter]
  refine List.filterMap_congr fun v _ => ?_
  cases v <;> rfl

theorem filterMap_failure_filter (visits : List Visit) :
    (visits.filter fun v => v.failure?.isNone).filterMap Visit.failure? = [] := by
  refine List.filterMap_eq_nil_iff.mpr fun v hv => ?_
  simpa using (List.mem_filter.mp hv).2

section Unread

variable (hcheck : checkRoot tree root = .ok ()) (hcwd : tree.cwdRemoved = false)
include hcheck hcwd

theorem discover_skip {unread : List (List Name × FileError)}
    (h : Walk.Unread tree (root.absolute tree.cwdPath) unread) :
    (discover tree root pattern .skip).1 =
      .ok ⟨(Walk.ofRoot tree (root.absolute tree.cwdPath)).filterMap (Visit.candidate? pattern), unread.length⟩ := by
  rw [discover_of_checkRoot hcheck hcwd, ofVisits_skip, h.met, List.length_map]

theorem discover_fail_nil (h : Walk.Unread tree (root.absolute tree.cwdPath) []) :
    (discover tree root pattern .fail).1 =
      .ok ⟨(Walk.ofRoot tree (root.absolute tree.cwdPath)).filterMap (Visit.candidate? pattern), 0⟩ := by
  rw [discover_of_checkRoot hcheck hcwd, ofVisits_fail, h.met]
  rfl

theorem discover_fail_cons {rest : List (List Name × FileError)}
    (h : Walk.Unread tree (root.absolute tree.cwdPath) ((names, cause) :: rest)) :
    (discover tree root pattern .fail).1 =
      .error (.unreadableDirectory ((root.absolute tree.cwdPath).joinAll names) cause) := by
  rw [discover_of_checkRoot hcheck hcwd, ofVisits_fail, h.met]
  rfl

theorem exists_unread_of_checkRoot (ht : tree.WellFormed) :
    ∃ unread, Walk.Unread tree (root.absolute tree.cwdPath) unread :=
  Walk.exists_unread ht (isDirectory_of_absoluteRoot ht hcheck (absoluteRoot_eq_ok_iff.mpr ⟨Or.inr hcwd, rfl⟩))

end Unread

/-- What the directories that cannot be listed mean for the discovery under a root. -/
structure Discovery.Isolated (tree : FileTree) (root : Path) (pattern : FilePattern) (found : Discovery)
    (unread : List (List Name × FileError)) : Prop where
  directories : Walk.Unread tree (root.absolute tree.cwdPath) unread
  skip : (discover tree root pattern .skip).1 = .ok found
  /-- Each of the directories is counted once. -/
  skipped : found.skipped = unread.length
  /-- The files are those that a discovery without skips finds if such a directory is empty. -/
  lenient : discoverBy tree.listing.lenient tree root pattern .fail = .ok ⟨found.files, 0⟩
  /-- For the listing of the tree, it is the discovery in the tree. -/
  listing : ∀ policy, discoverBy tree.listing tree root pattern policy = (discover tree root pattern policy).1
  /-- Without such a directory, nothing depends on the policy. -/
  fail_nil : unread = [] → (discover tree root pattern .fail).1 = .ok ⟨found.files, 0⟩
  /-- The first of the directories ends a discovery that does not skip it. -/
  fail_cons : ∀ names cause rest, unread = (names, cause) :: rest → (discover tree root pattern .fail).1 =
    .error (.unreadableDirectory ((root.absolute tree.cwdPath).joinAll names) cause)

/-- **A directory that cannot be listed is as good as empty if failures are skipped, and ends the discovery
otherwise.** -/
theorem discover_isolated (ht : tree.WellFormed) (hcwd : tree.cwdRemoved = false)
    (hcheck : checkRoot tree root = .ok ()) (pattern : FilePattern) :
    ∃ found unread, Discovery.Isolated tree root pattern found unread := by
  obtain ⟨unread, hunread⟩ := exists_unread_of_checkRoot hcheck hcwd ht
  refine ⟨_, unread, hunread, discover_skip hcheck hcwd hunread, rfl, ?_, fun policy => discoverBy_listing ht, ?_, ?_⟩
  · rw [discoverBy_of_checkRoot hcheck hcwd, Walk.ofRootBy_lenient ht, ofVisits_fail, filterMap_failure_filter,
      filterMap_candidate_filter]
  · rintro rfl
    exact discover_fail_nil hcheck hcwd hunread
  · rintro names cause rest rfl
    exact discover_fail_cons hcheck hcwd hunread

/-- The directory `/w/s/b` of the sample cannot be listed. -/
theorem sampleTree_isolated :
    sampleTree.WellFormed ∧ sampleTree.cwdRemoved = false ∧ checkRoot sampleTree ⟨[0x73]⟩ = .ok () ∧
      ∃ unread, Discovery.Isolated sampleTree ⟨[0x73]⟩ samplePattern sampleFound unread ∧ unread.length = 1 := by
  have hcheck : checkRoot sampleTree ⟨[0x73]⟩ = .ok () := (discover_eq_ok_iff.mp discover_sampleTree).1
  obtain ⟨found, unread, h⟩ := discover_isolated sampleTree_wellFormed rfl hcheck samplePattern
  obtain rfl : found = sampleFound := Except.ok.inj (h.skip.symm.trans discover_sampleTree)
  exact ⟨sampleTree_wellFormed, rfl, hcheck, unread, h, h.skipped.symm⟩

end BuilderAudit
