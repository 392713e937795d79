import BuilderAudit.Proofs.Scan.Accounting

/-!
# What the log tells of a report

Every number of a report is told in the log as well, event by event: each file that is found, read, passed over or
handed over, and each directory that cannot be listed. While a run is under way, files have been found that are still to
be read; with them the books of the log and of the report balance at every step.

* `Log.tally`, `Log.warnings` : the events with a message, and the warnings;
* `Log.Accounts` : the log accounts for a report and for some files that are still to be read;
* `tally_visits`, `accounts_discover` : what a discovery tells;
* `accounts_scanFile`, `accounts_scanRoot` : one file and one root keep the books; `accounts_run` : a whole run.
-/

namespace BuilderAudit

namespace Log

def tally (message : String) (events : List Event) : Nat := events.countP fun e => e.message = message

def warnings (events : List Event) : Nat := events.countP fun e => e.level = .warn

variable {message : String} {events log : List Event} {e : Event} {report : Report} {pending : Nat}

@[simp] theorem tally_nil (message : String) : tally message [] = 0 := rfl

@[simp] theorem tally_append (message : String) (events more : List Event) :
    tally message (events ++ more) = tally message events + tally message more :=
  List.countP_append

@[simp] theorem tally_cons (message : String) (e : Event) (events : List Event) :
    tally message (e :: events) = tally message events + if e.message = message then 1 else 0 := by
  simp [tally, List.countP_cons]

@[simp] theorem warnings_nil : warnings [] = 0 := rfl

@[simp] theorem warnings_append (events more : List Event) :
    warnings (events ++ more) = warnings events + warnings more :=
  List.countP_append

@[simp] theorem warnings_cons (e : Event) (events : List Event) :
    warnings (e :: events) = warnings events + if e.level = .warn then 1 else 0 := by
  simp [warnings, List.countP_cons]

/-- The log accounts for a report, and for some files that were found and are still to be read. -/
structure Accounts (pending : Nat) (log : List Event) (report : Report) : Prop where
  warnings : warnings log = report.filesSkipped
  /-- Each file that was found has been read or passed over, or is still to be read. -/
  found : tally "pattern matched" log = report.filesScanned + tally "skipping unreadable file" log + pending
  marked : tally "deprecated builder" log = report.found.length
  transformed : tally "transform skipped" log = report.found.length
  unmarked : tally "no deprecated marker" log + report.found.length = report.filesScanned

/-- The messages of the events that a report is held against. -/
def accountMessages : List String :=
  ["pattern matched", "skipping unreadable file", "deprecated builder", "transform skipped", "no deprecated marker"]

/-- A file that is passed over is read no more. -/
theorem Accounts.skipped (h : Accounts (pending + 1) log report) (path : Path) (cause : FileError) :
    Accounts pending (log ++ [.fileSkipped path cause]) { report with filesSkipped := report.filesSkipped + 1 } := by
  constructor
  · simp [Event.level, h.warnings]
  · simp [Event.message, h.found]
    omega
  · simp [Event.message, h.marked]
  · simp [Event.message, h.transformed]
  · simpa [Event.message] using h.unmarked

/-- A file that has been read without the marker. -/
theorem Accounts.scanned (h : Accounts (pending + 1) log report) (path : Path) :
    Accounts pending (log ++ [.unmarked path]) { report with filesScanned := report.filesScanned + 1 } := by
  constructor
  · simp [Event.level, h.warnings]
  · simp [Event.message, h.found]
    omega
  · simp [Event.message, h.marked]
  · simp [Event.message, h.transformed]
  · simp [Event.message, ← h.unmarked]
    omega

/-- A file that has been read with the marker is told of twice, before the transformer is called and by it. -/
theorem Accounts.matched (h : Accounts (pending + 1) log report) (m : Match) (name : String) (path base : Path)
    (builderNamespace : String) :
    Accounts pending (log ++ [.marked m.index m.path name] ++ [.transformSkipped path m.index base builderNamespace])
      { report with filesScanned := report.filesScanned + 1, found := report.found ++ [m] } := by
  constructor
  · simp [Event.level, h.warnings]
  · simp [Event.message, h.found]
    omega
  · simp [Event.message, h.marked]
  · simp [Event.message, h.transformed]
  · simp [Event.message, ← h.unmarked]
    omega

/-- Other events make no difference. -/
theorem Accounts.aside (h : Accounts pending log report) (hlevel : e.level ≠ .warn)
    (hmessage : e.message ∉ accountMessages) :
    Accounts pending (log ++ [e]) report := by
  simp only [accountMessages, List.mem_cons, List.not_mem_nil, or_false, not_or] at hmessage
  obtain ⟨hfound, hskipped, hmarked, htransformed, hunmarked⟩ := hmessage
  obtain ⟨h1, h2, h3, h4, h5⟩ := h
  constructor
  · simpa [hlevel] using h1
  · simpa [hfound, hskipped] using h2
  · simpa [hmarked] using h3
  · simpa [htransformed] using h4
  · simpa [hunmarked] using h5

end Log

open Log

variable {tree : FileTree} {root path : Path} {pattern : FilePattern} {policy : ReadErrorPolicy} {found : Discovery}
  {events : List Event} {visits : List Visit} {s : Scanner} {state final : RunState Unit} {pending : Nat}
  {report : Report}

/-! ## Discoveries -/

/-- A walk warns of each directory that cannot be listed. -/
theorem warnings_visits (pattern : FilePattern) (visits : List Visit) :
    warnings (visits.filterMap (Visit.event? pattern)) = visits.countP fun v => v.failure?.isSome := by
  rw [warnings, List.countP_filterMap]
  refine List.countP_congr fun v _ => ?_
  cases v with
  | unreadable path cause => simp [Visit.event?, Visit.failure?, Event.level]
  | file path name =>
      by_cases hname : pattern.acceptsName name = true
      · simp [Visit.event?, Visit.failure?, Event.level, hname]
      · simp [Visit.event?, Visit.failure?, hname]

/-- A walk tells of each file whose name matches. -/
theorem tally_visits (pattern : FilePattern) (visits : List Visit) :
    tally "pattern matched" (visits.filterMap (Visit.event? pattern)) =
      (visits.filterMap (Visit.candidate? pattern)).length := by
  rw [tally, List.countP_filterMap, List.length_filterMap_eq_countP]
  refine List.countP_congr fun v _ => ?_
  cases v with
  | unreadable path cause => simp [Visit.event?, Visit.candidate?, Event.message]
  | file path name =>
      by_cases hname : pattern.acceptsName name = true
      · simp [Visit.event?, Visit.candidate?, Event.message, hname]
      · simp [Visit.event?, Visit.candidate?, hname]

/-- A walk tells of nothing else. -/
theorem tally_visits_eq_zero {message : String} (pattern : FilePattern) (visits : List Visit)
    (hmatched : message ≠ "pattern matched") (hskipped : message ≠ "skipping unreadable entry") :
    tally message (visits.filterMap (Visit.event? pattern)) = 0 := by
  refine List.countP_eq_zero.mpr fun e he => ?_
  obtain ⟨v, -, hv⟩ := List.mem_filterMap.mp he
  cases v with
  | unreadable path cause =>
      obtain rfl : Event.entrySkipped path cause = e := by simpa [Visit.event?] using hv
      exact fun hmessage => hskipped (of_decide_eq_true hmessage).symm
  | file path name =>
      obtain ⟨-, rfl⟩ : pattern.acceptsName name = true ∧ Event.nameMatched path = e := by simpa [Visit.event?] using hv
      exact fun hmessage => hmatched (of_decide_eq_true hmessage).symm

/-- A discovery that succeeds has told of all that its walk has met. -/
theorem events_of_discover (h : discover tree root pattern policy = (.ok found, events)) :
    ∃ visits abs, Discovery.ofVisits pattern policy visits = .ok found ∧
      events = visits.filterMap (Visit.event? pattern) ++
        [.rootDiscovered abs pattern.text found.files.length found.skipped] := by
  unfold discover at h
  split at h
  · cases h
  · next abs _ =>
    cases hfound : Discovery.ofVisits pattern policy (Walk.ofRoot tree abs) with
    | error e =>
        simp only [hfound] at h
        cases h
    | ok found' =>
        simp only [hfound, Prod.mk.injEq, Except.ok.injEq] at h
        obtain ⟨rfl, rfl⟩ := h
        refine ⟨_, abs, hfound, ?_⟩
        have hall : ∀ v ∈ Walk.ofRoot tree abs, (policy = .skip || v.failure?.isNone) = true := by
          intro v hv
          cases policy with
          | skip => rfl
          | fail => simp [(ofVisits_eq_ok_iff.mp hfound).1 rfl v hv]
        rw [Discovery.events, List.takeWhile_eq_self_iff.mpr hall]

/-- The files that a discovery has found are still to be read. -/
theorem accounts_discover {log : List Event} (h : Accounts 0 log report)
    (hdiscover : discover tree root pattern policy = (.ok found, events)) :
    Accounts found.files.length (log ++ events)
      { report with filesSkipped := report.filesSkipped + found.skipped } := by
  obtain ⟨visits, abs, hfound, rfl⟩ := events_of_discover hdiscover
  rw [← List.append_assoc]
  refine Accounts.aside ?_ nofun (show "discovered candidate files" ∉ accountMessages by decide)
  obtain ⟨-, rfl⟩ := ofVisits_eq_ok_iff.mp hfound
  have hother : ∀ message, message ≠ "pattern matched" → message ≠ "skipping unreadable entry" →
      tally message (log ++ visits.filterMap (Visit.event? pattern)) = tally message log := by
    intro message hmatched hskipped
    rw [tally_append, tally_visits_eq_zero pattern visits hmatched hskipped, Nat.add_zero]
  constructor
  · rw [warnings_append, warnings_visits, h.warnings]
  · rw [tally_append, tally_visits, hother _ (by decide) (by decide), h.found, Nat.add_zero]
  · rw [hother _ (by decide) (by decide), h.marked]
  · rw [hother _ (by decide) (by decide), h.transformed]
  · rw [hother _ (by decide) (by decide)]
    exact h.unmarked

/-! ## Runs -/

/-- A file that is still to be read is read or passed over. -/
theorem accounts_scanFile (h : Accounts (pending + 1) state.log state.report)
    (hexec : (s.scanFile .idle path).exec state = (.ok (), final)) : Accounts pending final.log final.report := by
  have hstep := s.scanFile_step .idle path state
  rw [hexec] at hstep
  cases hstep with
  | skipped cause load policy => exact h.skipped path cause
  | unmarked source load marked => exact h.scanned source.path
  | accepted source load marked refusal => exact h.matched (s.nextMatch state source) _ source.path _ _

theorem accounts_scanFiles {paths : List Path} (h : Accounts paths.length state.log state.report)
    (hexec : (paths.forM (s.scanFile .idle)).exec state = (.ok (), final)) : Accounts 0 final.log final.report := by
  induction paths generalizing state with
  | nil =>
      cases hexec
      exact h
  | cons path paths ih =>
      obtain ⟨mid, hpath, hrest⟩ := Run.exec_forM_cons_eq_ok_iff.mp hexec
      exact ih (accounts_scanFile h hpath) hrest

theorem accounts_scanRoot (h : Accounts 0 state.log state.report)
    (hexec : (s.scanRoot .idle root).exec state = (.ok (), final)) : Accounts 0 final.log final.report := by
  rw [Scanner.scanRoot_eq, Run.exec_bind_eq_ok_iff] at hexec
  obtain ⟨files, opened, hopen, hfiles⟩ := hexec
  obtain ⟨found, events, hdiscover, rfl, rfl⟩ := Scanner.of_exec_openRoot_eq_ok hopen
  have hstarted : Accounts 0 (state.log ++ [.rootStarted root]) state.report :=
    h.aside nofun (show "scanning root" ∉ accountMessages by decide)
  exact accounts_scanFiles (accounts_discover hstarted hdiscover) hfiles

theorem accounts_scanRoots {roots : List Path} (h : Accounts 0 state.log state.report)
    (hexec : (roots.forM (s.scanRoot .idle)).exec state = (.ok (), final)) : Accounts 0 final.log final.report := by
  induction roots generalizing state with
  | nil =>
      cases hexec
      exact h
  | cons root roots ih =>
      obtain ⟨mid, hroot, hrest⟩ := Run.exec_forM_cons_eq_ok_iff.mp hexec
      exact ih (accounts_scanRoot h hroot) hrest

/-- The log of a run that ends well accounts for its report, if what was told before is held against no report. -/
theorem accounts_run (h : Accounts 0 state.log (Report.start s.config.sourceRoots))
    (hexec : (s.run .idle).exec state = (.ok report, final)) : Accounts 0 final.log report := by
  obtain ⟨-, last, hroots, rfl, rfl⟩ := Scanner.exec_run_eq_ok_iff.mp hexec
  have hstarted : Accounts 0 (s.started state).log (s.started state).report := h
  exact (accounts_scanRoots hstarted hroots).aside nofun (show "scan complete" ∉ accountMessages by decide)

end BuilderAudit
