import BuilderAudit.Proofs.Scan.Execution

/-!
# Runs that mirror each other

Two transformers whose states are related, and which do the same to the tree and refuse the same matches, cannot be told
apart by a run: both runs have the same result. Neither the log nor the report of an earlier run makes a difference.

* `Transformer.Mirrors`, `RunState.Mirrors`, `Run.Mirrors` : the same seen from outside;
* `mirrors_scanFile`, `mirrors_openRoot` : the parts of a run, put together as all paired parts are;
* `mirrors_run` : whole runs.
-/

namespace BuilderAudit

variable {σ σ' α β : Type} {R : σ → σ' → Prop}

/-- Two transformers have done the same with a match, up to their states. -/
structure Handover.Mirrors (R : σ → σ' → Prop) (outcome : Handover σ) (outcome' : Handover σ') : Prop where
  tree : outcome.tree = outcome'.tree
  state : R outcome.state outcome'.state
  refusal : outcome.refusal = outcome'.refusal

/-- Transformers that do the same as long as their states are related. -/
structure Transformer.Mirrors (R : σ → σ' → Prop) (t : Transformer σ) (t' : Transformer σ') : Prop where
  name : t.name = t'.name
  transform : ∀ source found destination tree x x', R x x' →
    (t.transform source found destination tree x).Mirrors R (t'.transform source found destination tree x')

/-- States of two runs that differ in their logs at most, and in the states of their transformers as `R` allows. -/
structure RunState.Mirrors (R : σ → σ' → Prop) (state : RunState σ) (state' : RunState σ') : Prop where
  tree : state.tree = state'.tree
  transformer : R state.transformer state'.transformer
  report : state.report = state'.report

/-- Parts of two runs that come to the same. -/
def Run.Mirrors (R : σ → σ' → Prop) (part : Run σ α) (part' : Run σ' α) : Prop :=
  ∀ state state', RunState.Mirrors R state state' →
    (part.exec state).1 = (part'.exec state').1 ∧ (part.exec state).2.Mirrors R (part'.exec state').2

/-! ## The parts of a scan -/

variable {s : Scanner} {t : Transformer σ} {t' : Transformer σ'} {state : RunState σ} {state' : RunState σ'}

theorem nextMatch_mirrors (h : state.Mirrors R state') (source : SourceFile) :
    s.nextMatch state' source = s.nextMatch state source := by
  rw [Scanner.nextMatch, Scanner.nextMatch, h.report]

theorem handover_mirrors (ht : t.Mirrors R t') (h : state.Mirrors R state') (source : SourceFile) :
    (s.handover t state source).Mirrors R (s.handover t' state' source) := by
  rw [Scanner.handover, Scanner.handover, nextMatch_mirrors h, ← h.tree]
  exact ht.transform _ _ _ _ _ _ h.transformer

theorem mirrors_scanFile (ht : t.Mirrors R t') (path : Path) :
    Run.Mirrors R (s.scanFile t path) (s.scanFile t' path) := by
  intro state state' h
  have hload : SourceFile.load state'.tree path = SourceFile.load state.tree path := by rw [h.tree]
  have hstep := s.scanFile_step t path state
  generalize (s.scanFile t path).exec state = step at hstep ⊢
  cases hstep with
  | skipped cause load policy =>
      rw [(Scanner.FileStep.skipped cause (hload.trans load) policy).exec_eq]
      exact ⟨rfl, h.tree, h.transformer, by rw [h.report]⟩
  | unreadable cause load policy =>
      rw [(Scanner.FileStep.unreadable cause (hload.trans load) policy).exec_eq]
      exact ⟨rfl, h⟩
  | unmarked source load marked =>
      rw [(Scanner.FileStep.unmarked source (hload.trans load) marked).exec_eq]
      exact ⟨rfl, h.tree, h.transformer, by rw [h.report]⟩
  | accepted source load marked refusal =>
      obtain ⟨htree, hx, hrefusal⟩ := handover_mirrors ht h source
      rw [(Scanner.FileStep.accepted source (hload.trans load) marked (hrefusal.symm.trans refusal)).exec_eq]
      exact ⟨rfl, htree, hx, by rw [nextMatch_mirrors h, h.report]⟩
  | refused source reason load marked refusal =>
      obtain ⟨htree, hx, hrefusal⟩ := handover_mirrors ht h source
      rw [(Scanner.FileStep.refused source reason (hload.trans load) marked (hrefusal.symm.trans refusal)).exec_eq]
      refine ⟨?_, htree, hx, by rw [h.report]⟩
      rw [nextMatch_mirrors h, ht.name]

theorem mirrors_openRoot (R : σ → σ' → Prop) (s : Scanner) (root : Path) :
    Run.Mirrors R (s.openRoot root) (s.openRoot root) := by
  intro state state' h
  rw [Scanner.exec_openRoot, Scanner.exec_openRoot, ← h.tree]
  rcases discover state.tree root s.pattern s.config.onReadError with ⟨e | found, events⟩
  · exact ⟨rfl, rfl, h.transformer, h.report⟩
  · exact ⟨rfl, rfl, h.transformer, by rw [h.report]⟩

theorem mirrors_scanRoot (ht : t.Mirrors R t') (root : Path) :
    Run.Mirrors R (s.scanRoot t root) (s.scanRoot t' root) := by
  rw [Scanner.scanRoot_eq, Scanner.scanRoot_eq]
  exact Run.Paired.bind (mirrors_openRoot R s root) fun files => Run.Paired.forM fun path _ => mirrors_scanFile ht path

/-- Whole runs mirror each other whatever their logs and the reports of earlier runs are. -/
theorem mirrors_run (ht : t.Mirrors R t') (htree : state.tree = state'.tree)
    (hx : R state.transformer state'.transformer) :
    ((s.run t).exec state).1 = ((s.run t').exec state').1 ∧
      RunState.Mirrors R ((s.run t).exec state).2 ((s.run t').exec state').2 :=
  Scanner.paired_run (fun _ _ h => h.report) (fun _ _ _ h => ⟨h.tree, h.transformer, h.report⟩) (by rw [htree])
    ⟨htree, hx, rfl⟩ (Run.Paired.forM fun root _ => mirrors_scanRoot ht root)

end BuilderAudit
