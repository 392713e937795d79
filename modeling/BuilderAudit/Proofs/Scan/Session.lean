import BuilderAudit.Proofs.Scan.Recording

/-!
# One scanner used again and again

A session runs one scanner any number of times, with the files changed in between. What a run hands over is numbered
from zero, whatever the runs before it have done: a run goes as it would with a new scanner for the same configuration.

* `SessionStep`, `Scanner.session` : the runs of a session;
* `Handed.Block` : what a run hands over, for every way in which it may end (`block_of_ended`);
* `exec_run_fresh` : a run with a new scanner;
* `session_lawful` : every run of a session is as it should be (`SessionRun.Lawful`).
-/

namespace BuilderAudit

/-- What can happen in a session. -/
inductive SessionStep
  | run
  /-- The files are changed between two runs. -/
  | change (f : FileTree → FileTree)

/-- A run of a session, with the states before and behind it. -/
structure SessionRun (σ : Type) where
  before : RunState (σ × List Handed)
  result : Except ScanError Report
  after : RunState (σ × List Handed)

variable {σ : Type}

/-- The runs of a session with a transformer that records what it is handed. -/
def Scanner.session (s : Scanner) (t : Transformer σ) :
    List SessionStep → RunState (σ × List Handed) → List (SessionRun σ)
  | [], _ => []
  | .change f :: steps, state => s.session t steps { state with tree := f state.tree }
  | .run :: steps, state =>
    let outcome := (s.run t.recorded).exec state
    ⟨state, outcome.1, outcome.2⟩ :: s.session t steps outcome.2

/-- What a run with a given result hands over. -/
structure Handed.Block (config : ScanConfig) (t : Transformer σ) (result : Except ScanError Report)
    (block : List Handed) : Prop where
  index : block.map (fun handed => handed.found.index) = List.range block.length
  destination : ∀ handed ∈ block, handed.destination = ⟨config.destinationBase, config.builderNamespace⟩
  ok : ∀ report, result = .ok report →
    block.map Handed.found = report.found ∧ ∀ handed ∈ block, handed.refusal = none
  refused : ∀ name path reason, result = .error (.refused name path reason) →
    ∃ accepted last, block = accepted ++ [last] ∧ (∀ handed ∈ accepted, handed.refusal = none) ∧
      last.refusal = some reason ∧ last.found.path = path ∧ name = t.name
  /-- A match that is refused is the last one, and it is why the run fails. -/
  last : ∀ front handed rest reason, block = front ++ handed :: rest → handed.refusal = some reason →
    rest = [] ∧ result = .error (.refused t.name handed.found.path reason)

/-- A run of a session is as it should be. -/
structure SessionRun.Lawful (config : ScanConfig) (t : Transformer σ) (r : SessionRun σ) (block : List Handed) :
    Prop where
  handed : r.after.transformer.2 = r.before.transformer.2 ++ block
  order : Handed.Block config t r.result block
  /-- A new scanner does the same, whatever its log and its report hold. -/
  fresh : ∀ new log report, Scanner.ofConfig config = .ok new →
    let outcome := (new.run t.recorded).exec ⟨r.before.tree, (r.before.transformer.1, []), log, report⟩
    outcome.1 = r.result ∧ outcome.2.tree = r.after.tree ∧ outcome.2.transformer = (r.after.transformer.1, block)

variable {s : Scanner} {t : Transformer σ} {state : RunState (σ × List Handed)} {config : ScanConfig}

/-! ## What a run hands over -/

theorem map_index_mapIdx (s : Scanner) (refusal : Option String) (sources : List SourceFile) :
    (sources.mapIdx (s.handed refusal)).map (fun handed => handed.found.index) = List.range sources.length := by
  apply List.ext_getElem
  · rw [List.length_map, List.length_mapIdx, List.length_range]
  · intro i _ _
    rw [List.getElem_map, List.getElem_mapIdx, List.getElem_range]
    rfl

theorem map_found_mapIdx (s : Scanner) (refusal : Option String) (sources : List SourceFile) :
    (sources.mapIdx (s.handed refusal)).map Handed.found = sources.mapIdx s.matchOf := by
  apply List.ext_getElem
  · rw [List.length_map, List.length_mapIdx, List.length_mapIdx]
  · intro i _ _
    rw [List.getElem_map, List.getElem_mapIdx, List.getElem_mapIdx]
    rfl

theorem of_mem_mapIdx {refusal : Option String} {sources : List SourceFile} {handed : Handed}
    (h : handed ∈ sources.mapIdx (s.handed refusal)) :
    handed.refusal = refusal ∧ handed.destination = s.config.destination := by
  obtain ⟨i, _, rfl⟩ := List.mem_mapIdx.mp h
  exact ⟨rfl, rfl⟩

/-- A new scanner for the same configuration does what the old one does. -/
theorem exec_run_fresh (hs : Scanner.ofConfig config = .ok s) {new : Scanner} (hnew : Scanner.ofConfig config = .ok new)
    (t : Transformer σ) (state : RunState (σ × List Handed)) (log : List Log.Event) (report : Report) :
    let outcome := (new.run t.recorded).exec ⟨state.tree, (state.transformer.1, []), log, report⟩
    outcome.1 = ((s.run t.recorded).exec state).1 ∧
      outcome.2.tree = ((s.run t.recorded).exec state).2.tree ∧
      outcome.2.transformer.1 = ((s.run t.recorded).exec state).2.transformer.1 ∧
      ((s.run t.recorded).exec state).2.transformer.2 = state.transformer.2 ++ outcome.2.transformer.2 := by
  obtain rfl : s = new := Except.ok.inj (hs.symm.trans hnew)
  have hx : state.transformer = (state.transformer.1, state.transformer.2 ++ []) := by rw [List.append_nil]
  obtain ⟨hresult, hfinal⟩ := @mirrors_run _ _ _ s _ _ state
    ⟨state.tree, (state.transformer.1, []), log, report⟩ (recorded_mirrors_recorded t state.transformer.2) rfl hx
  refine ⟨hresult.symm, hfinal.tree.symm, ?_, ?_⟩
  · rw [hfinal.transformer]
  · rw [hfinal.transformer]

theorem block_of_accepted (t : Transformer σ) {sources : List SourceFile} {result : Except ScanError Report}
    (hok : ∀ report, result = .ok report → report.found = sources.mapIdx s.matchOf)
    (hunrefused : ∀ name path reason, result ≠ .error (.refused name path reason)) :
    Handed.Block s.config t result (sources.mapIdx (s.handed none)) where
  index := by rw [map_index_mapIdx, List.length_mapIdx]
  destination handed hmem := (of_mem_mapIdx hmem).2
  ok report h :=
    ⟨(map_found_mapIdx s none sources).trans (hok report h).symm, fun handed hmem => (of_mem_mapIdx hmem).1⟩
  refused name path reason h := absurd h (hunrefused name path reason)
  last := by
    intro front handed rest reason heq hrefusal
    have hmem : handed ∈ sources.mapIdx (s.handed none) := by
      rw [heq]
      exact List.mem_append_right _ List.mem_cons_self
    rw [(of_mem_mapIdx hmem).1] at hrefusal
    cases hrefusal

theorem block_of_refused (t : Transformer σ) (sources : List SourceFile) (source : SourceFile) (reason : String) :
    Handed.Block s.config t (.error (.refused t.name source.path reason))
      (sources.mapIdx (s.handed none) ++ [s.handed (some reason) sources.length source]) where
  index := by
    rw [List.map_append, map_index_mapIdx, List.length_append, List.length_mapIdx, List.length_singleton,
      List.range_succ]
    rfl
  destination := by
    intro handed hmem
    rcases List.mem_append.mp hmem with hmem | hmem
    · exact (of_mem_mapIdx hmem).2
    · rw [List.mem_singleton.mp hmem]
      rfl
  ok report h := by cases h
  refused := by
    intro name path reason' h
    cases h
    exact ⟨_, _, rfl, fun handed hmem => (of_mem_mapIdx hmem).1, rfl, rfl, rfl⟩
  last := by
    intro front handed rest reason' heq hrefusal
    have hmem : handed ∉ sources.mapIdx (s.handed none) := by
      intro hmem
      rw [(of_mem_mapIdx hmem).1] at hrefusal
      cases hrefusal
    obtain ⟨-, rfl, hrest⟩ := (List.append_cons_inj_of_notMem hmem List.not_mem_nil).mp heq
    cases hrefusal
    exact ⟨hrest.symm, rfl⟩

theorem block_of_ended {before : List Handed} {result : Except ScanError Report} {final : RunState (σ × List Handed)}
    (h : Handed.Ended s t before result final) :
    ∃ block, final.transformer.2 = before ++ block ∧ Handed.Block s.config t result block := by
  cases h with
  | reported sources report _ hfound hhanded =>
      refine ⟨_, hhanded, block_of_accepted t ?_ ?_⟩
      · intro _ heq
        rw [← Except.ok.inj heq]
        exact hfound
      · intro name path reason heq
        cases heq
  | refused sources source reason _ hhanded => exact ⟨_, hhanded, block_of_refused t sources source reason⟩
  | failed sources e _ hunrefused hhanded =>
      refine ⟨_, hhanded, block_of_accepted t ?_ ?_⟩
      · intro report heq
        cases heq
      · intro name path reason heq
        exact hunrefused name path reason (Except.error.inj heq)

theorem lawful_of_exec_run (hs : Scanner.ofConfig config = .ok s) (t : Transformer σ)
    (state : RunState (σ × List Handed)) :
    ∃ block, SessionRun.Lawful config t
      ⟨state, ((s.run t.recorded).exec state).1, ((s.run t.recorded).exec state).2⟩ block := by
  obtain ⟨-, -, rfl⟩ := Scanner.of_ofConfig_eq_ok hs
  obtain ⟨block, hhanded, hblock⟩ := block_of_ended (ended_of_exec_run s t state)
  refine ⟨block, hhanded, hblock, fun new log report hnew => ?_⟩
  obtain ⟨hresult, htree, hx, hseen⟩ := exec_run_fresh hs hnew t state log report
  rw [hhanded] at hseen
  exact ⟨hresult, htree, Prod.ext hx (List.append_cancel_left hseen).symm⟩

/-- **Every run of a session hands over its matches from zero and goes as with a new scanner.** -/
theorem session_lawful (hs : Scanner.ofConfig config = .ok s) (t : Transformer σ) (steps : List SessionStep)
    (state : RunState (σ × List Handed)) : ∀ r ∈ s.session t steps state, ∃ block, r.Lawful config t block := by
  induction steps generalizing state with
  | nil =>
      intro r hr
      cases hr
  | cons step steps ih =>
      cases step with
      | change f => exact ih _
      | run =>
          intro r hr
          rcases List.mem_cons.mp hr with rfl | hr
          · exact lawful_of_exec_run hs t state
          · exact ih _ r hr

/-- Two runs of `sampleScanner` on `sampleTree`: the first one is refused its second match, and during the second one a
file goes. -/
def sampleSession : List (SessionRun Nat) :=
  sampleScanner.session sampleTransformer [.run, .change fun _ => sampleTree, .run] (sampleState 0)

set_option maxRecDepth 20000 in
theorem map_result_sampleSession : sampleSession.map SessionRun.result =
    [.error (.refused "sample" ⟨[0x2F, 0x77, 0x2F, 0x73, 0x2F, 0x61, 0x2F, 0x42, 0x78]⟩ "full"),
      .ok ⟨[⟨[0x73]⟩, ⟨[0x73, 0x2F, 0x61]⟩], 1, 3,
        [⟨0, ⟨[0x2F, 0x77, 0x2F, 0x73, 0x2F, 0x42, 0x6C]⟩, none, [1]⟩]⟩] := by cbv

theorem sampleSession_lawful :
    Scanner.ofConfig sampleScanner.config = .ok sampleScanner ∧ sampleSession.length = 2 ∧
      ∀ r ∈ sampleSession, ∃ block, r.Lawful sampleScanner.config sampleTransformer block :=
  ⟨ofConfig_sampleScanner, by rw [← List.length_map, map_result_sampleSession]; rfl,
    session_lawful ofConfig_sampleScanner sampleTransformer _ _⟩

end BuilderAudit
