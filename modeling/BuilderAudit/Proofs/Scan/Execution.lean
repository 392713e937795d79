import BuilderAudit.Proofs.Discovery.Candidates
import BuilderAudit.Scan.Run

/-!
# What the parts of a run do

A part of a run goes from a state to a result and another state, `Run.exec`. Here every part of `Scanner.run` is
described once by what it comes to from a state, and the loops over files and roots are taken apart into their turns.

* `Run.exec_bind`, `Run.exec_forM_cons` : one part after another;
* `Run.Keeps` : a part keeps an invariant, and an error leaves what it should (`Run.Keeps.bind`, `Run.Keeps.forM`);
* `Run.Paired` : parts of two runs have the same results (`Run.Paired.bind`, `Run.Paired.forM`, `Scanner.paired_run`);
* `Scanner.FileStep` : the five things that can become of a candidate file (`FileStep.exec_eq`, `scanFile_step`);
* `Scanner.openRoot` : the part of a root before its files are read (`Scanner.scanRoot_eq`);
* `Scanner.exec_run_eq_ok_iff` and `Scanner.exec_run_eq_error_iff` : the check of the roots and the loop over them.
-/

namespace BuilderAudit

namespace Run

variable {σ α β : Type} {state mid final : RunState σ} {part : Run σ α} {next : α → Run σ β} {a : α} {b : β}
  {e : ScanError}

/-- What a part of a run comes to from a state, with the state that it leaves. -/
def exec (part : Run σ α) (state : RunState σ) : Except ScanError α × RunState σ := part.run.run state

@[simp] theorem exec_get : exec (get : Run σ (RunState σ)) state = (.ok state, state) := rfl

@[simp] theorem exec_set : exec (set final : Run σ PUnit) state = (.ok ⟨⟩, final) := rfl

@[simp] theorem exec_modify (f : RunState σ → RunState σ) :
    exec (modify f : Run σ PUnit) state = (.ok ⟨⟩, f state) := rfl

@[simp] theorem exec_liftExcept (x : Except ScanError α) : exec (liftM x : Run σ α) state = (x, state) := by
  cases x <;> rfl

/-! ## One part after another -/

theorem exec_bind (part : Run σ α) (next : α → Run σ β) (state : RunState σ) :
    exec (part >>= next) state =
      match exec part state with
      | (.ok a, mid) => exec (next a) mid
      | (.error e, mid) => (.error e, mid) := by
  rw [exec, ExceptT.run_bind, StateT.run_bind, ← exec]
  rcases exec part state with ⟨e | a, mid⟩
  · rfl
  · rfl

theorem exec_bind_of_ok (h : exec part state = (.ok a, mid)) : exec (part >>= next) state = exec (next a) mid := by
  rw [exec_bind, h]

theorem exec_bind_of_error (h : exec part state = (.error e, mid)) : exec (part >>= next) state = (.error e, mid) := by
  rw [exec_bind, h]

theorem exec_bind_eq_ok_iff :
    exec (part >>= next) state = (.ok b, final) ↔
      ∃ a mid, exec part state = (.ok a, mid) ∧ exec (next a) mid = (.ok b, final) := by
  rw [exec_bind]
  rcases exec part state with ⟨e | a, mid⟩
  · simp
  · simp

@[simp] theorem exec_tell (events : List Log.Event) :
    exec (tell events) state = (.ok (), { state with log := state.log ++ events }) := rfl

@[simp] theorem exec_countScanned :
    exec countScanned state =
      (.ok (), { state with report := { state.report with filesScanned := state.report.filesScanned + 1 } }) := rfl

section HandOver

variable {t : Transformer σ} {source : SourceFile} {found : Match} {destination : Destination} {reason : String}

theorem exec_handOver_of_accepted
    (h : (t.transform source found destination state.tree state.transformer).refusal = none) :
    exec (handOver t source found destination) state = (.ok (), { state with
      tree := (t.transform source found destination state.tree state.transformer).tree
      transformer := (t.transform source found destination state.tree state.transformer).state
      log := state.log ++ (t.transform source found destination state.tree state.transformer).events }) := by
  rw [handOver, exec_bind_of_ok exec_get, exec_bind_of_ok exec_set, h]
  rfl

theorem exec_handOver_of_refused
    (h : (t.transform source found destination state.tree state.transformer).refusal = some reason) :
    exec (handOver t source found destination) state = (.error (.refused t.name found.path reason), { state with
      tree := (t.transform source found destination state.tree state.transformer).tree
      transformer := (t.transform source found destination state.tree state.transformer).state
      log := state.log ++ (t.transform source found destination state.tree state.transformer).events }) := by
  rw [handOver, exec_bind_of_ok exec_get, exec_bind_of_ok exec_set, h]
  rfl

end HandOver

/-! ## Loops -/

variable {f : α → Run σ PUnit} {x : α} {xs : List α}

theorem exec_forM_cons : exec ((x :: xs).forM f) state = exec (f x >>= fun _ => xs.forM f) state := rfl

theorem exec_forM_cons_eq_ok_iff :
    exec ((x :: xs).forM f) state = (.ok ⟨⟩, final) ↔
      ∃ mid, exec (f x) state = (.ok ⟨⟩, mid) ∧ exec (xs.forM f) mid = (.ok ⟨⟩, final) := by
  rw [exec_forM_cons, exec_bind_eq_ok_iff]
  exact ⟨fun ⟨_, mid, h⟩ => ⟨mid, h⟩, fun ⟨mid, h⟩ => ⟨⟨⟩, mid, h⟩⟩

/-- A loop that only checks leaves the state as it is. -/
theorem exec_forM_liftExcept (check : α → Except ScanError PUnit) (xs : List α) (state : RunState σ) :
    exec (xs.forM fun x => (liftM (check x) : Run σ PUnit)) state = (xs.forM check, state) := by
  induction xs with
  | nil => rfl
  | cons x xs ih =>
      rw [exec_forM_cons, exec_bind, exec_liftExcept]
      cases h : check x with
      | error e => simp [h, bind, Except.bind]
      | ok _ => simpa [h, bind, Except.bind] using ih

/-! ## Invariants -/

/-- A part that starts where `I` holds ends where `I` holds, or with an error and a state for which `J` holds. -/
def Keeps (I : RunState σ → Prop) (J : ScanError → RunState σ → Prop) (part : Run σ α) : Prop :=
  ∀ state, I state →
    match part.exec state with
    | (.ok _, final) => I final
    | (.error e, final) => J e final

variable {I : RunState σ → Prop} {J : ScanError → RunState σ → Prop}

theorem Keeps.ok (h : Keeps I J part) (hstate : I state) (hexec : part.exec state = (.ok a, final)) : I final := by
  have hfinal := h state hstate
  rw [hexec] at hfinal
  exact hfinal

theorem Keeps.error (h : Keeps I J part) (hstate : I state) (hexec : part.exec state = (.error e, final)) :
    J e final := by
  have hfinal := h state hstate
  rw [hexec] at hfinal
  exact hfinal

theorem Keeps.bind (hpart : Keeps I J part) (hnext : ∀ a, Keeps I J (next a)) : Keeps I J (part >>= next) := by
  intro state hstate
  rw [exec_bind]
  rcases hexec : part.exec state with ⟨e | a, mid⟩
  · exact hpart.error hstate hexec
  · exact hnext a mid (hpart.ok hstate hexec)

theorem Keeps.forM (h : ∀ x ∈ xs, Keeps I J (f x)) : Keeps I J (xs.forM f) := by
  induction xs with
  | nil => exact fun state hstate => hstate
  | cons x xs ih =>
      rw [List.forall_mem_cons] at h
      exact h.1.bind fun _ => ih h.2

/-! ## Two runs -/

section Paired

variable {σ' : Type}

/-- Parts of two runs that start where `P` holds have the same result and end where `P` holds. -/
def Paired (P : RunState σ → RunState σ' → Prop) (part : Run σ α) (part' : Run σ' α) : Prop :=
  ∀ state state', P state state' →
    (part.exec state).1 = (part'.exec state').1 ∧ P (part.exec state).2 (part'.exec state').2

variable {P : RunState σ → RunState σ' → Prop} {part' : Run σ' α} {next' : α → Run σ' β} {f' : α → Run σ' PUnit}

theorem Paired.bind (h : Paired P part part') (hnext : ∀ a, Paired P (next a) (next' a)) :
    Paired P (part >>= next) (part' >>= next') := by
  intro state state' hstate
  have hpart := h state state' hstate
  rw [exec_bind, exec_bind]
  generalize part.exec state = step, part'.exec state' = step' at hpart ⊢
  obtain ⟨result, mid⟩ := step
  obtain ⟨result', mid'⟩ := step'
  obtain ⟨rfl, hmid⟩ := hpart
  cases result with
  | error e => exact ⟨rfl, hmid⟩
  | ok a => exact hnext a mid mid' hmid

theorem Paired.forM (h : ∀ x ∈ xs, Paired P (f x) (f' x)) : Paired P (xs.forM f) (xs.forM f') := by
  induction xs with
  | nil => exact fun _ _ hstate => ⟨rfl, hstate⟩
  | cons x xs ih =>
      rw [List.forall_mem_cons] at h
      exact h.1.bind fun _ => ih h.2

end Paired

end Run

/-! ## Files -/

namespace Scanner

variable {σ : Type} {s : Scanner} {t : Transformer σ} {path root : Path} {source : SourceFile}
  {state final : RunState σ} {report : Report} {e : ScanError}

def nextMatch (s : Scanner) (state : RunState σ) (source : SourceFile) : Match :=
  s.matchOf state.report.found.length source

/-- What becomes of a source file that makes the next match. -/
def handover (s : Scanner) (t : Transformer σ) (state : RunState σ) (source : SourceFile) : Handover σ :=
  t.transform source (s.nextMatch state source) s.config.destination state.tree state.transformer

/-- What a turn of the loop over the candidate files comes to. -/
inductive FileStep (s : Scanner) (t : Transformer σ) (path : Path) (state : RunState σ) :
    Except ScanError Unit × RunState σ → Prop
  /-- The file cannot be read and is passed over. -/
  | skipped (cause : FileError) (load : SourceFile.load state.tree path = .error cause)
    (policy : s.config.onReadError = .skip) :
    FileStep s t path state (.ok (), { state with
      log := state.log ++ [.fileSkipped path cause]
      report := { state.report with filesSkipped := state.report.filesSkipped + 1 } })
  /-- The file cannot be read, which stops the run. -/
  | unreadable (cause : FileError) (load : SourceFile.load state.tree path = .error cause)
    (policy : s.config.onReadError = .fail) :
    FileStep s t path state (.error (.unreadableFile path cause), state)
  /-- The file does not carry the marker. -/
  | unmarked (source : SourceFile) (load : SourceFile.load state.tree path = .ok source)
    (marked : s.config.detector.isDeprecated source = false) :
    FileStep s t path state (.ok (), { state with
      log := state.log ++ [.unmarked source.path]
      report := { state.report with filesScanned := state.report.filesScanned + 1 } })
  /-- The file carries the marker, and the transformer takes the match. -/
  | accepted (source : SourceFile) (load : SourceFile.load state.tree path = .ok source)
    (marked : s.config.detector.isDeprecated source = true) (refusal : (s.handover t state source).refusal = none) :
    FileStep s t path state (.ok (), {
      tree := (s.handover t state source).tree
      transformer := (s.handover t state source).state
      log := state.log ++ [.marked (s.nextMatch state source).index (s.nextMatch state source).path t.name] ++
        (s.handover t state source).events
      report := { state.report with
        filesScanned := state.report.filesScanned + 1
        found := state.report.found ++ [s.nextMatch state source] } })
  /-- The file carries the marker, and the transformer refuses the match, which stops the run. -/
  | refused (source : SourceFile) (reason : String) (load : SourceFile.load state.tree path = .ok source)
    (marked : s.config.detector.isDeprecated source = true)
    (refusal : (s.handover t state source).refusal = some reason) :
    FileStep s t path state (.error (.refused t.name (s.nextMatch state source).path reason), {
      tree := (s.handover t state source).tree
      transformer := (s.handover t state source).state
      log := state.log ++ [.marked (s.nextMatch state source).index (s.nextMatch state source).path t.name] ++
        (s.handover t state source).events
      report := { state.report with filesScanned := state.report.filesScanned + 1 } })

/-- A source file that carries the marker is told of, handed over and then reported. -/
theorem exec_scanSource_of_marked (h : s.config.detector.isDeprecated source = true) :
    (s.scanSource t source).exec state =
      (do
        Run.handOver t source (s.nextMatch state source) s.config.destination
        Run.addMatch (s.nextMatch state source) : Run σ Unit).exec { state with
          log := state.log ++ [.marked (s.nextMatch state source).index (s.nextMatch state source).path t.name]
          report := { state.report with filesScanned := state.report.filesScanned + 1 } } := by
  rw [scanSource, Run.exec_bind_of_ok Run.exec_countScanned, if_pos h]
  rfl

theorem FileStep.exec_eq {step : Except ScanError Unit × RunState σ} (h : s.FileStep t path state step) :
    (s.scanFile t path).exec state = step := by
  rw [scanFile, Run.exec_bind_of_ok Run.exec_get]
  cases h with
  | skipped cause load policy =>
      rw [load, policy]
      rfl
  | unreadable cause load policy =>
      rw [load, policy]
      rfl
  | unmarked source load marked =>
      rw [load]
      show (s.scanSource t source).exec state = _
      rw [scanSource, Run.exec_bind_of_ok Run.exec_countScanned, marked]
      rfl
  | accepted source load marked refusal =>
      rw [load]
      show (s.scanSource t source).exec state = _
      rw [exec_scanSource_of_marked marked, Run.exec_bind_of_ok (Run.exec_handOver_of_accepted ?_)]
      · rfl
      · exact refusal
  | refused source reason load marked refusal =>
      rw [load]
      show (s.scanSource t source).exec state = _
      rw [exec_scanSource_of_marked marked, Run.exec_bind_of_error (Run.exec_handOver_of_refused ?_)]
      · rfl
      · exact refusal

theorem exists_fileStep (s : Scanner) (t : Transformer σ) (path : Path) (state : RunState σ) :
    ∃ step, s.FileStep t path state step := by
  cases hload : SourceFile.load state.tree path with
  | error cause =>
      cases hpolicy : s.config.onReadError with
      | skip => exact ⟨_, .skipped cause hload hpolicy⟩
      | fail => exact ⟨_, .unreadable cause hload hpolicy⟩
  | ok source =>
      cases hmarked : s.config.detector.isDeprecated source with
      | false => exact ⟨_, .unmarked source hload hmarked⟩
      | true =>
          cases hrefusal : (s.handover t state source).refusal with
          | none => exact ⟨_, .accepted source hload hmarked hrefusal⟩
          | some reason => exact ⟨_, .refused source reason hload hmarked hrefusal⟩

theorem scanFile_step (s : Scanner) (t : Transformer σ) (path : Path) (state : RunState σ) :
    s.FileStep t path state ((s.scanFile t path).exec state) := by
  obtain ⟨step, hstep⟩ := s.exists_fileStep t path state
  rw [hstep.exec_eq]
  exact hstep

/-! ## Roots -/

def openRoot (s : Scanner) (root : Path) : Run σ (List Path) := do
  Run.tell [.rootStarted root]
  let (found, events) := discover (← get).tree root s.pattern s.config.onReadError
  Run.tell events
  let found ← found
  Run.countSkipped found.skipped
  return found.files

theorem scanRoot_eq (s : Scanner) (t : Transformer σ) (root : Path) :
    s.scanRoot t root = s.openRoot root >>= fun files => files.forM (s.scanFile t) := by
  simp only [scanRoot, openRoot, bind_assoc, pure_bind]

theorem exec_openRoot (s : Scanner) (root : Path) (state : RunState σ) :
    (s.openRoot root).exec state =
      match discover state.tree root s.pattern s.config.onReadError with
      | (.ok found, events) => (.ok found.files, { state with
          log := state.log ++ [.rootStarted root] ++ events
          report := { state.report with filesSkipped := state.report.filesSkipped + found.skipped } })
      | (.error e, events) => (.error e, { state with log := state.log ++ [.rootStarted root] ++ events }) := by
  rw [openRoot, Run.exec_bind_of_ok (Run.exec_tell _), Run.exec_bind_of_ok Run.exec_get]
  rcases discover state.tree root s.pattern s.config.onReadError with ⟨e | found, events⟩
  · rw [Run.exec_bind_of_ok (Run.exec_tell _)]
    rfl
  · rw [Run.exec_bind_of_ok (Run.exec_tell _)]
    rfl

theorem of_exec_openRoot_eq_ok {files : List Path} (h : (s.openRoot root).exec state = (.ok files, final)) :
    ∃ found events, discover state.tree root s.pattern s.config.onReadError = (.ok found, events) ∧
      found.files = files ∧ final = { state with
        log := state.log ++ [.rootStarted root] ++ events
        report := { state.report with filesSkipped := state.report.filesSkipped + found.skipped } } := by
  rw [exec_openRoot] at h
  rcases hdiscover : discover state.tree root s.pattern s.config.onReadError with ⟨e | found, events⟩
  · rw [hdiscover] at h
    cases h
  · rw [hdiscover] at h
    cases h
    exact ⟨found, events, rfl, rfl, rfl⟩

/-! ## The whole run -/

def started (s : Scanner) (state : RunState σ) : RunState σ :=
  { state with report := Report.start s.config.sourceRoots }

theorem exec_run (s : Scanner) (t : Transformer σ) (state : RunState σ) :
    (s.run t).exec state =
      match s.config.sourceRoots.forM (checkRoot state.tree) with
      | .error e => (.error e, s.started state)
      | .ok _ =>
        match (s.config.sourceRoots.forM (s.scanRoot t)).exec (s.started state) with
        | (.error e, final) => (.error e, final)
        | (.ok _, final) => (.ok final.report, { final with log := final.log ++ [.scanComplete
            s.config.sourceRoots.length final.report.filesScanned final.report.filesSkipped
            final.report.found.length] }) := by
  rw [run, Run.exec_bind_of_ok (Run.exec_modify _), Run.exec_bind_of_ok Run.exec_get, Run.exec_bind,
    Run.exec_forM_liftExcept]
  cases s.config.sourceRoots.forM (checkRoot state.tree) with
  | error e => rfl
  | ok _ =>
      show (s.config.sourceRoots.forM (s.scanRoot t) >>= _).exec (s.started state) = _
      rw [Run.exec_bind]
      rcases (s.config.sourceRoots.forM (s.scanRoot t)).exec (s.started state) with ⟨e | _, final⟩
      · rfl
      · rfl

/-- A run ends well if all roots pass the check and the loop over them ends well. -/
theorem exec_run_eq_ok_iff :
    (s.run t).exec state = (.ok report, final) ↔
      s.config.sourceRoots.forM (checkRoot state.tree) = .ok () ∧
        ∃ last, (s.config.sourceRoots.forM (s.scanRoot t)).exec (s.started state) = (.ok (), last) ∧
          last.report = report ∧ { last with log := last.log ++ [.scanComplete s.config.sourceRoots.length
            report.filesScanned report.filesSkipped report.found.length] } = final := by
  rw [exec_run]
  cases s.config.sourceRoots.forM (checkRoot state.tree) with
  | error e => simp
  | ok _ =>
      rcases (s.config.sourceRoots.forM (s.scanRoot t)).exec (s.started state) with ⟨e | _, last⟩
      · simp
      · simp only [Prod.mk.injEq, Except.ok.injEq, true_and]
        constructor
        · rintro ⟨rfl, rfl⟩
          exact ⟨last, rfl, rfl, rfl⟩
        · rintro ⟨_, rfl, rfl, rfl⟩
          exact ⟨rfl, rfl⟩

/-- A run fails in the check of the roots or in the loop over them. -/
theorem exec_run_eq_error_iff :
    (s.run t).exec state = (.error e, final) ↔
      (s.config.sourceRoots.forM (checkRoot state.tree) = .error e ∧ s.started state = final) ∨
        (s.config.sourceRoots.forM (checkRoot state.tree) = .ok () ∧
          (s.config.sourceRoots.forM (s.scanRoot t)).exec (s.started state) = (.error e, final)) := by
  rw [exec_run]
  cases s.config.sourceRoots.forM (checkRoot state.tree) with
  | error e => simp
  | ok _ =>
      rcases (s.config.sourceRoots.forM (s.scanRoot t)).exec (s.started state) with ⟨e | _, last⟩
      · simp
      · simp

/-- Two runs have the same result if their roots pass the check alike and their loops over the roots are paired. -/
theorem paired_run {σ' : Type} {t' : Transformer σ'} {state' : RunState σ'} {P : RunState σ → RunState σ' → Prop}
    (hreport : ∀ last last', P last last' → last.report = last'.report)
    (hlog : ∀ last last' events, P last last' →
      P { last with log := last.log ++ events } { last' with log := last'.log ++ events })
    (hcheck : s.config.sourceRoots.forM (checkRoot state.tree) = s.config.sourceRoots.forM (checkRoot state'.tree))
    (hstarted : P (s.started state) (s.started state'))
    (hloop : Run.Paired P (s.config.sourceRoots.forM (s.scanRoot t)) (s.config.sourceRoots.forM (s.scanRoot t'))) :
    ((s.run t).exec state).1 = ((s.run t').exec state').1 ∧ P ((s.run t).exec state).2 ((s.run t').exec state').2 := by
  have hloop := hloop _ _ hstarted
  rw [exec_run, exec_run, ← hcheck]
  cases s.config.sourceRoots.forM (checkRoot state.tree) with
  | error e => exact ⟨rfl, hstarted⟩
  | ok _ =>
      generalize (s.config.sourceRoots.forM (s.scanRoot t)).exec (s.started state) = step,
        (s.config.sourceRoots.forM (s.scanRoot t')).exec (s.started state') = step' at hloop ⊢
      obtain ⟨result, last⟩ := step
      obtain ⟨result', last'⟩ := step'
      obtain ⟨rfl, hlast⟩ := hloop
      cases result with
      | error e => exact ⟨rfl, hlast⟩
      | ok _ =>
          have hsame : last.report = last'.report := hreport _ _ hlast
          have hadd := hlog _ _ [.scanComplete s.config.sourceRoots.length last.report.filesScanned
            last.report.filesSkipped last.report.found.length] hlast
          refine ⟨congrArg Except.ok hsame, ?_⟩
          simpa only [hsame] using hadd

/-- A scanner works with the configuration that it is made of and with its pattern. -/
theorem of_ofConfig_eq_ok {config : ScanConfig} (h : Scanner.ofConfig config = .ok s) :
    config.validate = .ok () ∧ config.filePattern = .ok s.pattern ∧ s.config = config := by
  unfold ofConfig at h
  cases hvalid : config.validate with
  | error cause => simp [hvalid, bind, Except.bind] at h
  | ok _ =>
      cases hpattern : config.filePattern with
      | error cause => simp [hvalid, hpattern, bind, Except.bind] at h
      | ok pattern =>
          rw [hvalid, hpattern] at h
          cases h
          exact ⟨rfl, rfl, rfl⟩

end Scanner

/-- A scanner for files with an `@` under `s` and, once more, under `s/a`. -/
def sampleScanner : Scanner where
  config :=
    { sourceRoots := [⟨[0x73]⟩, ⟨[0x73, 0x2F, 0x61]⟩]
      destinationBase := ⟨[0x64]⟩
      builderNamespace := "n"
      pattern := "B"
      marker := "@"
      markerMatch := .contains
      onReadError := .skip }
  pattern := samplePattern

theorem ofConfig_sampleScanner : Scanner.ofConfig sampleScanner.config = .ok sampleScanner := by decide +kernel

end BuilderAudit
