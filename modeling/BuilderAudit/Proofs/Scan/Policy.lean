import BuilderAudit.Proofs.Scan.RootErrors

/-!
# Failing or skipping

Two runs over the same tree, one that fails at what it cannot read and one that skips it, go in step until the first
thing that cannot be read. There the strict run stops, and not for a root, while the lenient run counts one more and
goes on to its end. So the strict run ends well exactly if the lenient one has skipped nothing.

* `Scanner.under` : a scanner with another policy;
* `Run.Relaxed`, `Run.Relaxes` : how the parts of the two runs compare (`Run.Relaxes.bind`, `Run.Relaxes.forM`);
* `discover_policies` : the two discoveries under a root;
* `policies_agree` : how the whole runs compare (`Scanner.PoliciesAgree`).
-/

namespace BuilderAudit

variable {σ : Type} {config : ScanConfig} {s : Scanner} {t : Transformer σ} {tree : FileTree} {root : Path}

def Transformer.AcceptsAll (t : Transformer σ) : Prop :=
  ∀ source found destination tree x, (t.transform source found destination tree x).refusal = none

def ScanConfig.under (config : ScanConfig) (policy : ReadErrorPolicy) : ScanConfig :=
  { config with onReadError := policy }

def Scanner.under (s : Scanner) (policy : ReadErrorPolicy) : Scanner := { s with config := s.config.under policy }

/-- The policy has no part in whether a configuration is accepted. -/
theorem ofConfig_under (hs : Scanner.ofConfig config = .ok s) (policy : ReadErrorPolicy) :
    Scanner.ofConfig (config.under policy) = .ok (s.under policy) := by
  obtain ⟨hvalid, hpattern, rfl⟩ := Scanner.of_ofConfig_eq_ok hs
  have hvalid' : (s.config.under policy).validate = .ok () := hvalid
  have hpattern' : (s.config.under policy).filePattern = .ok s.pattern := hpattern
  rw [Scanner.ofConfig, hvalid', hpattern']
  rfl

/-! ## Two runs in step -/

/-- What has become of two parts of runs, the second one started with the report `before`. -/
inductive Run.Relaxed (before : Report) (strict lenient : Except ScanError Unit × RunState σ) : Prop
  /-- Nothing has been skipped, and both runs are where they would be with the other policy. -/
  | same (mid mid' : RunState σ) (hstrict : strict = (.ok (), mid)) (hlenient : lenient = (.ok (), mid'))
      (mirrors : mid.Mirrors Eq mid') (skipped : mid'.report.filesSkipped = before.filesSkipped)
  /-- The strict run has stopped, and the lenient one has skipped something. -/
  | stopped (e : ScanError) (mid mid' : RunState σ) (hstrict : strict = (.error e, mid)) (he : e.isRootError = false)
      (hlenient : lenient = (.ok (), mid')) (skipped : before.filesSkipped < mid'.report.filesSkipped)

/-- Of two parts of runs in `tree` the second one goes on where the first one stops. -/
structure Run.Relaxes (tree : FileTree) (strict lenient : Run σ Unit) : Prop where
  relaxed : ∀ state state' : RunState σ, state.Mirrors Eq state' → state'.tree = tree →
    Run.Relaxed state'.report (strict.exec state) (lenient.exec state')
  still : Run.Still lenient

theorem RunState.Mirrors.refl (state : RunState σ) : state.Mirrors Eq state := ⟨rfl, rfl, rfl⟩

namespace Run.Relaxes

variable {strict lenient strict' lenient' : Run σ Unit}

/-- The lenient part ends well and never takes back what has been skipped. -/
theorem exec_lenient (h : Run.Relaxes tree strict lenient) {state : RunState σ} (htree : state.tree = tree) :
    ∃ final, lenient.exec state = (.ok (), final) ∧ final.tree = tree ∧
      state.report.filesSkipped ≤ final.report.filesSkipped := by
  have hstill := h.still.tree_eq state
  cases h.relaxed state state (.refl state) htree with
  | same mid mid' hstrict hlenient mirrors skipped =>
      rw [hlenient] at hstill
      exact ⟨mid', hlenient, hstill.trans htree, Nat.le_of_eq skipped.symm⟩
  | stopped e mid mid' hstrict he hlenient skipped =>
      rw [hlenient] at hstill
      exact ⟨mid', hlenient, hstill.trans htree, Nat.le_of_lt skipped⟩

theorem bind (h : Run.Relaxes tree strict lenient) (hnext : Run.Relaxes tree strict' lenient') :
    Run.Relaxes tree (strict >>= fun _ => strict') (lenient >>= fun _ => lenient') := by
  refine ⟨fun state state' hstate htree => ?_, fun other => (h.still other).bind fun _ => hnext.still other⟩
  have hstill := h.still.tree_eq state'
  cases h.relaxed state state' hstate htree with
  | same mid mid' hstrict hlenient mirrors skipped =>
      rw [hlenient] at hstill
      rw [Run.exec_bind_of_ok hstrict, Run.exec_bind_of_ok hlenient]
      cases hnext.relaxed mid mid' mirrors (hstill.trans htree) with
      | same last last' hlast hlast' mirrors' skipped' =>
          exact .same last last' hlast hlast' mirrors' (skipped'.trans skipped)
      | stopped e last last' hlast he hlast' skipped' =>
          exact .stopped e last last' hlast he hlast' (skipped ▸ skipped')
  | stopped e mid mid' hstrict he hlenient skipped =>
      rw [hlenient] at hstill
      obtain ⟨last, hlast, -, hle⟩ := hnext.exec_lenient (hstill.trans htree)
      rw [Run.exec_bind_of_error hstrict, Run.exec_bind_of_ok hlenient]
      exact .stopped e mid last rfl he hlast (Nat.lt_of_lt_of_le skipped hle)

theorem forM {α : Type} {f f' : α → Run σ Unit} {xs : List α} (h : ∀ x ∈ xs, Run.Relaxes tree (f x) (f' x)) :
    Run.Relaxes tree (xs.forM f) (xs.forM f') := by
  induction xs with
  | nil =>
      refine ⟨fun state state' hstate _ => ?_, fun other state hstate => hstate⟩
      exact .same state state' rfl rfl hstate rfl
  | cons x xs ih =>
      rw [List.forall_mem_cons] at h
      exact h.1.bind (ih h.2)

end Run.Relaxes

/-! ## Files -/

theorem relaxes_scanFile (ht : t.KeepsTree) (ha : t.AcceptsAll) (path : Path) :
    Run.Relaxes tree ((s.under .fail).scanFile t path) ((s.under .skip).scanFile t path) := by
  refine ⟨fun state state' hstate _ => ?_, still_scanFile ht path⟩
  obtain ⟨htree, hx, hreport⟩ := hstate
  have hload : SourceFile.load state'.tree path = SourceFile.load state.tree path := by rw [htree]
  have hnext : ∀ source, (s.under .skip).nextMatch state' source = (s.under .fail).nextMatch state source := by
    intro source
    unfold Scanner.nextMatch
    rw [hreport]
    rfl
  have hover : ∀ source, (s.under .skip).handover t state' source = (s.under .fail).handover t state source := by
    intro source
    unfold Scanner.handover
    rw [hnext, htree, hx]
    rfl
  have hstep := (s.under .fail).scanFile_step t path state
  generalize (Scanner.scanFile (s.under .fail) t path).exec state = step at hstep ⊢
  cases hstep with
  | skipped cause load policy => cases policy
  | unreadable cause load policy =>
      rw [(Scanner.FileStep.skipped (s := s.under .skip) (t := t) cause (hload.trans load) rfl).exec_eq]
      exact .stopped _ _ _ rfl rfl rfl (Nat.lt_succ_self _)
  | unmarked source load marked =>
      rw [(Scanner.FileStep.unmarked (s := s.under .skip) (t := t) source (hload.trans load) marked).exec_eq]
      exact .same _ _ rfl rfl ⟨htree, hx, by rw [hreport]⟩ rfl
  | accepted source load marked refusal =>
      rw [(Scanner.FileStep.accepted (s := s.under .skip) source (hload.trans load) marked
        ((congrArg Handover.refusal (hover source)).trans refusal)).exec_eq]
      refine .same _ _ rfl rfl ⟨?_, ?_, ?_⟩ rfl
      · exact congrArg Handover.tree (hover source).symm
      · exact congrArg Handover.state (hover source).symm
      · show _ = { state'.report with
          filesScanned := state'.report.filesScanned + 1
          found := state'.report.found ++ [(s.under .skip).nextMatch state' source] }
        rw [hnext, hreport]
  | refused source reason load marked refusal =>
      have haccepted : ((s.under .fail).handover t state source).refusal = none := ha ..
      rw [haccepted] at refusal
      cases refusal

/-! ## Roots -/

/-- Of two discoveries under a root that passes its check, the lenient one ends well, and the strict one ends with the
same if nothing is skipped. -/
theorem discover_policies (pattern : FilePattern) (hcwd : tree.cwdRemoved = false)
    (hcheck : checkRoot tree root = .ok ()) :
    ∃ found, (discover tree root pattern .skip).1 = .ok found ∧
      ((discover tree root pattern .fail).1 = .ok found ∧ found.skipped = 0 ∨
        ∃ e, (discover tree root pattern .fail).1 = .error e ∧ 0 < found.skipped) := by
  refine ⟨_, (discover_of_checkRoot hcheck hcwd).trans (ofVisits_skip _), ?_⟩
  rw [discover_of_checkRoot hcheck hcwd, ofVisits_fail]
  cases (Walk.ofRoot tree (root.absolute tree.cwdPath)).filterMap Visit.failure? with
  | nil => exact Or.inl ⟨rfl, rfl⟩
  | cons failure rest => exact Or.inr ⟨_, rfl, Nat.succ_pos _⟩

section OpenRoot

variable {found : Discovery} {events : List Log.Event} {e : ScanError} {state : RunState σ}

/-- The state in which the files of a root are read. -/
def RunState.opened (state : RunState σ) (root : Path) (events : List Log.Event) (skipped : Nat) : RunState σ :=
  { state with
    log := state.log ++ [.rootStarted root] ++ events
    report := { state.report with filesSkipped := state.report.filesSkipped + skipped } }

theorem exec_openRoot_of_ok (h : discover state.tree root s.pattern s.config.onReadError = (.ok found, events)) :
    (s.openRoot root).exec state = (.ok found.files, state.opened root events found.skipped) := by
  rw [Scanner.exec_openRoot, h]
  rfl

theorem exec_openRoot_of_error (h : discover state.tree root s.pattern s.config.onReadError = (.error e, events)) :
    (s.openRoot root).exec state = (.error e, { state with log := state.log ++ [.rootStarted root] ++ events }) := by
  rw [Scanner.exec_openRoot, h]

end OpenRoot

theorem relaxes_scanRoot (ht : t.KeepsTree) (ha : t.AcceptsAll) (hcwd : tree.cwdRemoved = false)
    (hcheck : checkRoot tree root = .ok ()) :
    Run.Relaxes tree ((s.under .fail).scanRoot t root) ((s.under .skip).scanRoot t root) := by
  refine ⟨?_, still_scanRoot ht root⟩
  rintro state state' ⟨htree, hx, hreport⟩ rfl
  have hfiles : ∀ files : List Path, Run.Relaxes state'.tree (files.forM ((s.under .fail).scanFile t))
      (files.forM ((s.under .skip).scanFile t)) := fun files =>
    Run.Relaxes.forM fun path _ => relaxes_scanFile ht ha path
  obtain ⟨found, hlenient, hstrict⟩ := discover_policies s.pattern hcwd hcheck
  rcases hskip : discover state'.tree root s.pattern .skip with ⟨result', events'⟩
  rcases hfail : discover state'.tree root s.pattern .fail with ⟨result, events⟩
  rw [hskip] at hlenient
  rw [hfail] at hstrict
  obtain rfl : result' = .ok found := hlenient
  have hopen' := exec_openRoot_of_ok (s := s.under .skip) hskip
  rw [← htree] at hfail
  rw [Scanner.scanRoot_eq, Scanner.scanRoot_eq, Run.exec_bind_of_ok hopen']
  rcases hstrict with ⟨hok, hzero⟩ | ⟨e, herror, hpos⟩
  · obtain rfl : result = .ok found := hok
    rw [Run.exec_bind_of_ok (exec_openRoot_of_ok (s := s.under .fail) hfail)]
    have hopened : (state.opened root events found.skipped).Mirrors Eq (state'.opened root events' found.skipped) := by
      refine ⟨htree, hx, ?_⟩
      unfold RunState.opened
      rw [hreport]
    have hskipped : (state'.opened root events' found.skipped).report.filesSkipped = state'.report.filesSkipped := by
      show state'.report.filesSkipped + found.skipped = state'.report.filesSkipped
      rw [hzero, Nat.add_zero]
    cases (hfiles found.files).relaxed _ _ hopened rfl with
    | same mid mid' hmid hmid' mirrors skipped => exact .same mid mid' hmid hmid' mirrors (skipped.trans hskipped)
    | stopped e mid mid' hmid he hmid' skipped =>
        rw [hskipped] at skipped
        exact .stopped e mid mid' hmid he hmid' skipped
  · obtain rfl : result = .error e := herror
    have hopened : (state'.opened root events' found.skipped).tree = state'.tree := rfl
    obtain ⟨last, hlast, -, hle⟩ := (hfiles found.files).exec_lenient hopened
    rw [Run.exec_bind_of_error (exec_openRoot_of_error (s := s.under .fail) hfail)]
    refine .stopped e _ last rfl ?_ hlast ?_
    · rw [← htree] at hcheck
      exact isRootError_discover hcheck (congrArg Prod.fst hfail)
    · exact Nat.lt_of_lt_of_le (Nat.lt_add_of_pos_right hpos) hle

/-! ## Whole runs -/

def Scanner.result (s : Scanner) (t : Transformer σ) (state : RunState σ) : Except ScanError Report :=
  ((s.run t).exec state).1

/-- How the runs under the two policies compare. -/
structure Scanner.PoliciesAgree (config : ScanConfig) (s : Scanner) (t : Transformer σ) (state : RunState σ) :
    Prop where
  accepted : ∀ policy, Scanner.ofConfig (config.under policy) = .ok (s.under policy)
  /-- The strict run ends well if and only if the lenient one does and has skipped nothing, with the same report. -/
  ok_iff : ∀ report, (s.under .fail).result t state = .ok report ↔
    (s.under .skip).result t state = .ok report ∧ report.filesSkipped = 0
  /-- Both fail for the same root or neither fails for a root. -/
  rootError_iff : ∀ e : ScanError, e.isRootError = true →
    ((s.under .fail).result t state = .error e ↔ (s.under .skip).result t state = .error e)
  /-- Nothing but a root stops the lenient run. -/
  lenient_ok : (∀ root ∈ config.sourceRoots, checkRoot state.tree root = .ok ()) →
    ∃ report, (s.under .skip).result t state = .ok report

theorem result_eq_of_checkRoots_error {e : ScanError} {state : RunState σ}
    (h : s.config.sourceRoots.forM (checkRoot state.tree) = .error e) : s.result t state = .error e := by
  rw [Scanner.result, Scanner.exec_run, h]

/-- Runs under roots that have passed their check. -/
theorem relaxed_of_checkRoots {state : RunState σ} (ht : t.KeepsTree) (ha : t.AcceptsAll)
    (hcwd : state.tree.cwdRemoved = false)
    (hroots : ∀ root ∈ s.config.sourceRoots, checkRoot state.tree root = .ok ()) :
    ∃ lenient, (s.under .skip).result t state = .ok lenient ∧
      ((s.under .fail).result t state = .ok lenient ∧ lenient.filesSkipped = 0 ∨
        ∃ e, (s.under .fail).result t state = .error e ∧ e.isRootError = false ∧ 0 < lenient.filesSkipped) := by
  have hloop : Run.Relaxes state.tree (s.config.sourceRoots.forM ((s.under .fail).scanRoot t))
      (s.config.sourceRoots.forM ((s.under .skip).scanRoot t)) :=
    Run.Relaxes.forM fun root hroot => relaxes_scanRoot ht ha hcwd (hroots root hroot)
  have hcheck := checkRoots_eq_ok_iff.mpr hroots
  have hstep := hloop.relaxed (s.started state) (s.started state) (.refl _) rfl
  unfold Scanner.result
  rw [(s.under .skip).exec_run, (s.under .fail).exec_run,
    show (s.under .skip).config.sourceRoots = s.config.sourceRoots from rfl,
    show (s.under .fail).config.sourceRoots = s.config.sourceRoots from rfl, hcheck,
    show (s.under .skip).started state = s.started state from rfl,
    show (s.under .fail).started state = s.started state from rfl]
  cases hstep with
  | same mid mid' hstrict hlenient mirrors skipped =>
      refine ⟨mid'.report, ?_, Or.inl ⟨?_, skipped⟩⟩
      · simp only [hlenient]
      · simp only [hstrict, mirrors.report]
  | stopped e mid mid' hstrict he hlenient skipped =>
      refine ⟨mid'.report, ?_, Or.inr ⟨e, ?_, he, skipped⟩⟩
      · simp only [hlenient]
      · simp only [hstrict]

/-- **A run that fails at what it cannot read ends well exactly if one that skips it has skipped nothing, and both fail
for the same roots.** -/
theorem policies_agree (hs : Scanner.ofConfig config = .ok s) (ht : t.KeepsTree) (ha : t.AcceptsAll)
    (state : RunState σ) (hcwd : state.tree.cwdRemoved = false) : s.PoliciesAgree config t state := by
  have haccepted := ofConfig_under hs
  obtain ⟨-, -, rfl⟩ := Scanner.of_ofConfig_eq_ok hs
  cases hcheck : s.config.sourceRoots.forM (checkRoot state.tree) with
  | error e =>
      have hstrict : (s.under .fail).result t state = .error e := result_eq_of_checkRoots_error hcheck
      have hlenient : (s.under .skip).result t state = .error e := result_eq_of_checkRoots_error hcheck
      refine ⟨haccepted, fun report => ?_, fun e' _ => ?_, fun hroots => ?_⟩
      · rw [hstrict, hlenient]
        exact ⟨nofun, fun h => nomatch h.1⟩
      · rw [hstrict, hlenient]
      · rw [checkRoots_eq_ok_iff.mpr hroots] at hcheck
        cases hcheck
  | ok _ =>
      obtain ⟨lenient, hlenient, hstrict⟩ := relaxed_of_checkRoots ht ha hcwd (checkRoots_eq_ok_iff.mp hcheck)
      rcases hstrict with ⟨hok, hzero⟩ | ⟨e, herror, he, hpos⟩
      · refine ⟨haccepted, fun report => ?_, fun e' _ => ?_, fun _ => ⟨lenient, hlenient⟩⟩
        · rw [hok, hlenient]
          refine ⟨fun h => ⟨h, ?_⟩, And.left⟩
          rw [Except.ok.injEq] at h
          exact h ▸ hzero
        · rw [hok, hlenient]
      · refine ⟨haccepted, fun report => ?_, fun e' he' => ?_, fun _ => ⟨lenient, hlenient⟩⟩
        · rw [herror, hlenient]
          refine ⟨nofun, fun ⟨h, hzero⟩ => ?_⟩
          rw [Except.ok.injEq] at h
          rw [h] at hpos
          omega
        · rw [herror, hlenient]
          refine ⟨fun h => ?_, nofun⟩
          rw [Except.error.injEq] at h
          rw [h, he'] at he
          cases he

theorem idle_acceptsAll : Transformer.idle.AcceptsAll := fun _ _ _ _ _ => rfl

/-- On the sample the lenient run has skipped two entries, so the strict run reports nothing. -/
theorem sampleScanner_policies_agree :
    Scanner.ofConfig sampleScanner.config = .ok sampleScanner ∧ Transformer.idle.KeepsTree ∧
      Transformer.idle.AcceptsAll ∧ sampleTree.cwdRemoved = false ∧
      sampleScanner.PoliciesAgree sampleScanner.config Transformer.idle ⟨sampleTree, (), [], Report.start []⟩ ∧
      ∀ report, (sampleScanner.under .fail).result Transformer.idle ⟨sampleTree, (), [], Report.start []⟩ ≠
        .ok report := by
  have hagree := policies_agree ofConfig_sampleScanner idle_keepsTree idle_acceptsAll
    ⟨sampleTree, (), [], Report.start []⟩ rfl
  refine ⟨ofConfig_sampleScanner, idle_keepsTree, idle_acceptsAll, rfl, hagree, fun report h => ?_⟩
  obtain ⟨hlenient, hskipped⟩ := (hagree.ok_iff report).mp h
  have hsample : (sampleScanner.under .skip).result Transformer.idle ⟨sampleTree, (), [], Report.start []⟩ =
    .ok sampleReport := run_sampleScanner_idle
  rw [hsample, Except.ok.injEq] at hlenient
  rw [← hlenient] at hskipped
  cases hskipped

end BuilderAudit
