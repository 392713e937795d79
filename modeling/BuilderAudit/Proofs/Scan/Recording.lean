import BuilderAudit.Proofs.Scan.History
import BuilderAudit.Proofs.Scan.Mirror

/-!
# What a transformer is handed

A recording transformer does what another one does and keeps a list of everything that it is handed, also of the match
that it refuses. A run hands over one match after the other, each with the next number and before it is reported, so
that the list and the report grow in step.

* `Transformer.recorded` : the recording transformer (`recorded_mirrors`: no run can tell);
* `Handed.InStep` : the list and the report after some source files, kept in step by every part of a run;
* `Handed.Ended` : the list at the end of a run, however it ends (`ended_of_exec_run`);
* `accumulates_handed` : the list of a run that ends well, read off its history.
-/

namespace BuilderAudit

/-- Something that a transformer is handed, and whether it refuses the match. -/
structure Handed where
  source : SourceFile
  found : Match
  destination : Destination
  refusal : Option String
  deriving DecidableEq, Repr

variable {σ : Type}

/-- The transformer that does what `t` does and keeps a list of what it is handed. -/
def Transformer.recorded (t : Transformer σ) : Transformer (σ × List Handed) where
  name := t.name
  transform source found destination tree x :=
    let outcome := t.transform source found destination tree x.1
    ⟨outcome.tree, (outcome.state, x.2 ++ [⟨source, found, destination, outcome.refusal⟩]), outcome.events,
      outcome.refusal⟩

/-- A run cannot tell that its transformer records what it is handed. -/
theorem recorded_mirrors (t : Transformer σ) : Transformer.Mirrors (fun x x' => x.1 = x') t.recorded t where
  name := rfl
  transform := by
    rintro source found destination tree x _ rfl
    exact ⟨rfl, rfl, rfl⟩

/-- A run cannot tell what was recorded before. -/
theorem recorded_mirrors_recorded (t : Transformer σ) (before : List Handed) :
    Transformer.Mirrors (fun x x' => x = (x'.1, before ++ x'.2)) t.recorded t.recorded where
  name := rfl
  transform := by
    rintro source found destination tree _ x rfl
    exact ⟨rfl, Prod.ext rfl (List.append_assoc ..), rfl⟩

/-- What is handed over for a source file that makes the match with a given number. -/
def Scanner.handed (s : Scanner) (refusal : Option String) (index : Nat) (source : SourceFile) : Handed :=
  ⟨source, s.matchOf index source, s.config.destination, refusal⟩

variable {s : Scanner} {t : Transformer σ} {path root : Path} {state final : RunState (σ × List Handed)}
  {report : Report} {before : List Handed} {sources : List SourceFile} {e : ScanError}

theorem handed_of_handover (s : Scanner) (t : Transformer σ) (state : RunState (σ × List Handed))
    (source : SourceFile) :
    (s.handover t.recorded state source).state.2 = state.transformer.2 ++
      [s.handed (s.handover t.recorded state source).refusal state.report.found.length source] := rfl

/-! ## In step -/

/-- The matches of the report are those of `sources`, and they have been handed over and accepted since `before`. -/
structure Handed.InStep (s : Scanner) (before : List Handed) (sources : List SourceFile)
    (state : RunState (σ × List Handed)) : Prop where
  found : state.report.found = sources.mapIdx s.matchOf
  handed : state.transformer.2 = before ++ sources.mapIdx (s.handed none)

/-- How a run may end, and what it has handed over then: if a match is refused, it comes last. -/
inductive Handed.Ended (s : Scanner) (t : Transformer σ) (before : List Handed) :
    Except ScanError Report → RunState (σ × List Handed) → Prop
  | reported (sources : List SourceFile) (report : Report) (state : RunState (σ × List Handed))
    (found : report.found = sources.mapIdx s.matchOf)
    (handed : state.transformer.2 = before ++ sources.mapIdx (s.handed none)) :
    Ended s t before (.ok report) state
  | refused (sources : List SourceFile) (source : SourceFile) (reason : String) (state : RunState (σ × List Handed))
    (handed : state.transformer.2 =
      before ++ (sources.mapIdx (s.handed none) ++ [s.handed (some reason) sources.length source])) :
    Ended s t before (.error (.refused t.name source.path reason)) state
  | failed (sources : List SourceFile) (e : ScanError) (state : RunState (σ × List Handed))
    (unrefused : ∀ name path reason, e ≠ .refused name path reason)
    (handed : state.transformer.2 = before ++ sources.mapIdx (s.handed none)) :
    Ended s t before (.error e) state

/-- A part of a run that keeps the list and the report in step. -/
def Handed.Keeps {α : Type} (s : Scanner) (t : Transformer σ) (part : Run (σ × List Handed) α) : Prop :=
  ∀ before, Run.Keeps (fun state => ∃ sources, Handed.InStep s before sources state)
    (fun e state => Handed.Ended s t before (.error e) state) part

/-- An accepted match keeps the list and the report in step. -/
theorem Handed.InStep.accept {source : SourceFile} (h : Handed.InStep s before sources state)
    (hrefusal : (s.handover t.recorded state source).refusal = none)
    (hfound : final.report.found = state.report.found ++ [s.nextMatch state source])
    (hhanded : final.transformer = (s.handover t.recorded state source).state) :
    Handed.InStep s before (sources ++ [source]) final := by
  have hlength : state.report.found.length = sources.length := by rw [h.found, List.length_mapIdx]
  refine ⟨?_, ?_⟩
  · rw [hfound, List.mapIdx_concat, ← h.found, ← hlength]
    rfl
  · rw [hhanded, List.mapIdx_concat, handed_of_handover, h.handed, hrefusal, hlength, List.append_assoc]

theorem keepsInStep_scanFile (s : Scanner) (t : Transformer σ) (path : Path) :
    Handed.Keeps s t (s.scanFile t.recorded path) := by
  rintro before state ⟨sources, hfound, hhanded⟩
  have hlength : state.report.found.length = sources.length := by rw [hfound, List.length_mapIdx]
  have hstep := s.scanFile_step t.recorded path state
  generalize (s.scanFile t.recorded path).exec state = step at hstep ⊢
  cases hstep with
  | skipped cause load policy => exact ⟨sources, hfound, hhanded⟩
  | unreadable cause load policy => exact .failed sources _ _ (by simp) hhanded
  | unmarked source load marked => exact ⟨sources, hfound, hhanded⟩
  | accepted source load marked refusal =>
      exact ⟨sources ++ [source], Handed.InStep.accept ⟨hfound, hhanded⟩ refusal rfl rfl⟩
  | refused source reason load marked refusal =>
      refine .refused sources source reason _ ?_
      rw [handed_of_handover, hhanded, refusal, hlength, List.append_assoc]

theorem keepsInStep_openRoot (s : Scanner) (t : Transformer σ) (root : Path) : Handed.Keeps s t (s.openRoot root) := by
  rintro before state ⟨sources, hfound, hhanded⟩
  rw [Scanner.exec_openRoot]
  rcases hdiscover : discover state.tree root s.pattern s.config.onReadError with ⟨e | found, events⟩
  · refine .failed sources e _ ?_ hhanded
    rintro name path reason rfl
    exact discover_ne_refused (congrArg Prod.fst hdiscover)
  · exact ⟨sources, hfound, hhanded⟩

theorem keepsInStep_scanRoot (s : Scanner) (t : Transformer σ) (root : Path) :
    Handed.Keeps s t (s.scanRoot t.recorded root) := by
  intro before
  rw [Scanner.scanRoot_eq]
  exact (keepsInStep_openRoot s t root before).bind fun files =>
    Run.Keeps.forM fun path _ => keepsInStep_scanFile s t path before

/-- Every run ends in one of the three ways. -/
theorem ended_of_exec_run (s : Scanner) (t : Transformer σ) (state : RunState (σ × List Handed)) :
    Handed.Ended s t state.transformer.2 ((s.run t.recorded).exec state).1 ((s.run t.recorded).exec state).2 := by
  have hstarted : Handed.InStep s state.transformer.2 [] (s.started state) := ⟨rfl, (List.append_nil _).symm⟩
  have hloop : Run.Keeps _ _ (s.config.sourceRoots.forM (s.scanRoot t.recorded)) :=
    Run.Keeps.forM fun root _ => keepsInStep_scanRoot s t root state.transformer.2
  rw [Scanner.exec_run]
  cases hcheck : s.config.sourceRoots.forM (checkRoot state.tree) with
  | error e =>
      refine .failed [] e _ ?_ hstarted.handed
      rintro name path reason rfl
      exact Bool.false_ne_true (isRootError_of_checkRoots hcheck)
  | ok _ =>
      rcases hexec : (s.config.sourceRoots.forM (s.scanRoot t.recorded)).exec (s.started state) with ⟨e | _, final⟩
      · exact hloop.error ⟨[], hstarted⟩ hexec
      · obtain ⟨sources, hfound, hhanded⟩ := hloop.ok ⟨[], hstarted⟩ hexec
        exact .reported sources _ _ hfound hhanded

/-! ## The list of a run that ends well -/

/-- What accumulates in the list of what is handed over. -/
theorem accumulates_handed (s : Scanner) (t : Transformer σ) :
    s.Accumulates t.recorded fun turns skipped before after =>
      Report.Adds s turns skipped before.report after.report ∧
        after.transformer.2 = before.transformer.2 ++
          numbered (s.handed none) before.report.found.length (turns.filterMap s.marked?) where
  nothing state := ⟨.nothing s state.report, (List.append_nil _).symm⟩
  trans := by
    rintro turns more m n before mid after ⟨hadds, hhanded⟩ ⟨hadds', hhanded'⟩
    refine ⟨hadds.trans hadds', ?_⟩
    rw [hhanded', hhanded, hadds.found, List.filterMap_append, numbered_append, List.length_append, length_numbered,
      List.append_assoc]
  opened _ := ⟨.entries s _ _, (List.append_nil _).symm⟩
  scanned := by
    intro path state final h
    refine ⟨report_of_exec_scanFile h, ?_⟩
    have hstep := s.scanFile_step t.recorded path state
    rw [h] at hstep
    cases hstep with
    | skipped cause load policy => simp [Scanner.marked?_of_error load]
    | unmarked source load marked => simp [Scanner.marked?_of_ok load, marked]
    | accepted source load marked refusal =>
        rw [handed_of_handover, refusal]
        simp [Scanner.marked?_of_ok load, marked]

/-- A run that records goes as one that does not. -/
theorem exec_run_recorded (s : Scanner) (t : Transformer σ) (state : RunState (σ × List Handed)) :
    let plain := (s.run t).exec ⟨state.tree, state.transformer.1, state.log, state.report⟩
    ((s.run t.recorded).exec state).1 = plain.1 ∧ ((s.run t.recorded).exec state).2.tree = plain.2.tree ∧
      ((s.run t.recorded).exec state).2.transformer.1 = plain.2.transformer := by
  obtain ⟨hresult, hfinal⟩ := @mirrors_run _ _ _ s _ _ state
    ⟨state.tree, state.transformer.1, state.log, state.report⟩ (recorded_mirrors t) rfl rfl
  exact ⟨hresult, hfinal.tree, hfinal.transformer⟩

/-- A transformer that counts what it is handed. It refuses the second match and takes `/w/s/a/Bx` away at the third. -/
def sampleTransformer : Transformer Nat where
  name := "sample"
  transform _ _ _ tree x :=
    ⟨if x = 2 then tree.alter [[0x77], [0x73], [0x61], [0x42, 0x78]] fun _ => none else tree, x + 1, [],
      if x = 1 then some "full" else none⟩

/-- The state in which `sampleTransformer` has been handed `x` matches before. -/
def sampleState (x : Nat) : RunState (Nat × List Handed) := ⟨sampleTree, (x, []), [], Report.start []⟩

end BuilderAudit
