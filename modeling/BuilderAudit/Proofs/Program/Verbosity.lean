import BuilderAudit.Proofs.CommandLine.Reading
import BuilderAudit.Proofs.Program.Course
import Mathlib

/-!
# Verbosity

The flags of verbosity and the log filter of the environment choose which events are shown. Nothing else depends on
them, and no event is told because of them. A higher verbosity shows what a lower one shows, and more.

* `SameButVerbosity` : command lines that differ in the flags of verbosity alone, and so come to the same arguments
  otherwise (`silenced_eq`);
* `Log.shown_sublist` : what two verbosities show of the same events;
* `execute_logAlone` : what can come of the flags and of the filter (`Program.LogAlone`).
-/

namespace BuilderAudit

namespace CommandLine

/-- Does this say more than how much is shown? -/
def Occurrence.isSubstantial : Occurrence → Bool
  | .flag .verbose | .flag .quiet => false
  | _ => true

/-- The command lines say the same things in the same order, but for the flags of verbosity: there may be any number of
them, anywhere. -/
def SameButVerbosity (argv argv' : List Argument) : Prop :=
  ∃ os os', Spells os argv ∧ Spells os' argv' ∧ os.filter Occurrence.isSubstantial = os'.filter Occurrence.isSubstantial

def Args.silenced (a : Args) : Args := { a with verbose := 0, quiet := false }

def State.silenced (st : State) : State := { st with args := st.args.silenced }

/-! ## What the flags leave alone -/

variable {a b : Args} {st st₁ : State} {o : Occurrence} {os : List Occurrence} {argv argv' : List Argument}

theorem withSetting_silenced (a : Args) (value : Argument) (s : Setting) :
    a.silenced.withSetting value s = (a.withSetting value s).map Args.silenced := by
  cases s with
  | config | destination | outputFile =>
      rw [Args.withSetting, Args.withSetting]
      cases path? value <;> rfl
  | pattern | marker | builderNamespace =>
      rw [Args.withSetting, Args.withSetting]
      cases text? value <;> rfl
  | format =>
      rw [Args.withSetting, Args.withSetting]
      split <;> rfl

namespace State

/-- Everything else is taken over without the flags as with them. -/
theorem accept_silenced (hsettle : st.settle = .ok st) (ho : o.isSubstantial = true) (h : st.accept o = .ok st₁) :
    st.silenced.accept o = .ok st₁.silenced := by
  have hpending := pending_of_settle hsettle
  cases o with
  | setting s value =>
      rw [accept, take] at h ⊢
      split at h
      · cases h
      · next hgiven =>
        obtain ⟨args, hargs, rfl⟩ := map_eq_ok_iff.mp h
        have hsilenced : st.silenced.args.withSetting value s = .ok args.silenced :=
          (withSetting_silenced st.args value s).trans (congrArg (Except.map Args.silenced) hargs)
        rw [if_neg (show s ∉ st.silenced.given from hgiven), hsilenced]
        rfl
  | flag f =>
      have hsilenced : st.silenced.settle = .ok st.silenced := settle_of_nothing hpending
      simp only [accept, flag, hsettle, hsilenced, bind, Except.bind] at h ⊢
      cases f with
      | verbose | quiet => cases ho
      | help | version => cases h
      | legacyMarkerCheck | skipUnreadable =>
          dsimp only at h ⊢
          split at h
          · cases h
          · next hflag =>
            cases h
            exact if_neg hflag
  | root value =>
      obtain ⟨p, hpath, rfl⟩ := map_eq_ok_iff.mp h
      rw [accept, hpath]
      rfl

/-- A flag of verbosity changes nothing else. -/
theorem silenced_of_accept (hsettle : st.settle = .ok st) (ho : o.isSubstantial = false) (h : st.accept o = .ok st₁) :
    st₁.silenced = st.silenced := by
  cases o with
  | setting s value => cases ho
  | root value => cases ho
  | flag f =>
      simp only [accept, flag, hsettle, bind, Except.bind] at h
      cases f with
      | legacyMarkerCheck | skipUnreadable | help | version => cases ho
      | verbose =>
          cases h
          rfl
      | quiet =>
          dsimp only at h
          split at h
          · cases h
          · cases h
            rfl

theorem foldlM_silenced (hsettle : st.settle = .ok st) (h : os.foldlM accept st = .ok st₁) :
    (os.filter Occurrence.isSubstantial).foldlM accept st.silenced = .ok st₁.silenced := by
  induction os generalizing st with
  | nil =>
      cases h
      rfl
  | cons o os ih =>
      rw [List.foldlM_cons] at h
      obtain ⟨st₂, ho, h⟩ := bind_eq_ok_iff.mp h
      have hrest := ih (settle_accept hsettle ho) h
      cases hkind : o.isSubstantial with
      | true =>
          rw [List.filter_cons_of_pos hkind, List.foldlM_cons, accept_silenced hsettle hkind ho]
          exact hrest
      | false =>
          rw [List.filter_cons_of_neg (by simp [hkind]), ← silenced_of_accept hsettle hkind ho]
          exact hrest

end State

/-- Command lines that differ in the flags of verbosity come to arguments that differ in them. -/
theorem silenced_eq (h : Args.ofArguments argv = .ok a) (h' : Args.ofArguments argv' = .ok b)
    (hsame : SameButVerbosity argv argv') : a.silenced = b.silenced := by
  obtain ⟨os, os', hspells, hspells', hfilter⟩ := hsame
  obtain ⟨st, hrun, rfl⟩ := foldlM_of_ofArguments hspells h
  obtain ⟨st', hrun', rfl⟩ := foldlM_of_ofArguments hspells' h'
  have hsilenced := State.foldlM_silenced (settle_of_nothing rfl) hrun
  rw [hfilter, State.foldlM_silenced (settle_of_nothing rfl) hrun', Except.ok.injEq] at hsilenced
  exact congrArg State.args hsilenced.symm

end CommandLine

/-! ## What is shown -/

namespace Log

variable {v w : Verbosity} {e : Event}

def Verbosity.rank : Verbosity → Nat
  | quiet => 0
  | normal => 1
  | verbose => 2
  | debug => 3
  | trace => 4

theorem quiet_of_rank_le (h : v.rank ≤ Verbosity.quiet.rank) : v = .quiet := by
  cases v <;> first | rfl | exact absurd h (by decide)

theorem rank_level_le (h : v.rank ≤ w.rank) : v.level.rank ≤ w.level.rank := by
  cases v <;> cases w <;> first | decide | exact absurd h (by decide)

/-- All events are the program's own. -/
theorem isPrefixOf_target (e : Event) : "builder_audit".toList.isPrefixOf e.target.toList = true := by
  cases e <;> simp only [Event.target] <;> decide +kernel

theorem passes_upTo (level : Level) (e : Event) :
    (Filter.upTo level).passes e = decide (e.level.rank ≤ level.rank) := by
  have happlies : Rule.appliesTo ⟨some "builder_audit", [], some level⟩ e = true := by
    simp only [Rule.appliesTo, Option.all_some, isPrefixOf_target, List.all_nil, Bool.and_true]
  simp only [Filter.passes, Filter.upTo, List.find?_cons, happlies]
  rfl

/-- What a verbosity shows is shown by the higher ones, if the environment gives no filter. -/
theorem shown_sublist (h : v.rank ≤ w.rank) (events : List Event) :
    (shown v none events).Sublist (shown w none events) := by
  by_cases hv : v = .quiet
  · rw [shown, if_pos hv]
    exact List.nil_sublist _
  · have hw : w ≠ .quiet := by
      rintro rfl
      exact hv (quiet_of_rank_le h)
    rw [shown, shown, if_neg hv, if_neg hw]
    refine List.monotone_filter_right events fun e => Bool.le_iff_imp.mpr fun hshown => ?_
    simp only [Filter.inForce, Option.bind_none, Option.getD_none, passes_upTo, decide_eq_true_eq] at hshown ⊢
    exact hshown.trans (rank_level_le h)

theorem shown_quiet (setting : Option String) (events : List Event) : shown .quiet setting events = [] := if_pos rfl

end Log

/-! ## Runs of the program -/

namespace Program

open CommandLine

variable {argv argv' : List Argument} {a b : Args}

/-- The flags of verbosity have no part in what is done. -/
theorem perform_silenced (a : Args) : perform a.silenced = perform a := rfl

/-- What can come of the flags of verbosity and of the log filter of the environment: another log, and nothing else. -/
structure LogAlone (argv argv' : List Argument) (a b : Args) (tree : FileTree) : Prop where
  code : ∀ setting setting', (execute argv setting tree).1.code = (execute argv' setting' tree).1.code
  stdout : ∀ setting setting', (execute argv setting tree).1.stdout = (execute argv' setting' tree).1.stdout
  error : ∀ setting setting', (execute argv setting tree).1.error = (execute argv' setting' tree).1.error
  files : ∀ setting setting', (execute argv setting tree).2 = (execute argv' setting' tree).2
  /-- Without a filter of the environment, the higher verbosity shows what the lower one shows, in the same order. -/
  log : a.verbosity.rank ≤ b.verbosity.rank →
    (execute argv none tree).1.log.Sublist (execute argv' none tree).1.log
  /-- A quiet run shows nothing, whatever the filter. -/
  quiet : a.quiet = true → ∀ setting, (execute argv setting tree).1.log = []

theorem outcome_eq (e : ProgramError) (log : List Log.Event) : e.outcome log = { e.outcome [] with log } := by
  cases e <;> simp only [ProgramError.outcome]
  split <;> rfl

/-- What is done decides the outcome but for what is shown of the log. -/
theorem exists_outcome (task : Task String) (tree : FileTree) :
    ∃ (outcome : Outcome) (events : List Log.Event) (after : FileTree), ∀ argv args setting,
      Args.ofArguments argv = .ok args → perform args = task →
        execute argv setting tree = ({ outcome with log := Log.shown args.verbosity setting events }, after) := by
  rcases hexec : Task.exec task tree [] with ⟨e | text, after, events⟩
  · refine ⟨e.outcome [], events, after, fun argv args setting h hperform => ?_⟩
    rw [execute_of_ok h, hperform, hexec]
    dsimp only
    rw [outcome_eq]
  · refine ⟨⟨0, text, none, []⟩, events, after, fun argv args setting h hperform => ?_⟩
    rw [execute_of_ok h, hperform, hexec]

/-- **The flags of verbosity and the log filter of the environment decide what is shown of the log, and nothing
else.** -/
theorem execute_logAlone (h : Args.ofArguments argv = .ok a) (h' : Args.ofArguments argv' = .ok b)
    (hsame : SameButVerbosity argv argv') (tree : FileTree) : LogAlone argv argv' a b tree := by
  have hperform : perform b = perform a := by
    rw [← perform_silenced b, ← silenced_eq h h' hsame, perform_silenced]
  obtain ⟨outcome, events, after, hexecute⟩ := exists_outcome (perform a) tree
  have ha := fun setting => hexecute argv a setting h rfl
  have hb := fun setting => hexecute argv' b setting h' hperform
  refine ⟨fun _ _ => ?_, fun _ _ => ?_, fun _ _ => ?_, fun _ _ => ?_, fun hrank => ?_, fun hquiet setting => ?_⟩
  · rw [ha, hb]
  · rw [ha, hb]
  · rw [ha, hb]
  · rw [ha, hb]
  · rw [ha, hb]
    exact Log.shown_sublist hrank events
  · have hverbosity : a.verbosity = .quiet := by rw [Args.verbosity, hquiet]; rfl
    rw [ha, hverbosity]
    exact Log.shown_quiet setting events

/-- A command line that is quiet in spite of asking for more. -/
def sampleQuiet : List Argument := [.ofString "--quiet", .ofString "s", .ofString "-v"]

/-- A command line for the same root that asks for much. -/
def sampleLoud : List Argument := [.ofString "s", .ofString "-vv"]

theorem sampleQuiet_sameButVerbosity : SameButVerbosity sampleQuiet sampleLoud := by
  have hroot : Standalone (.ofString "s") := fun h => absurd h (by decide)
  have hone : Letters [.verbose] [0x76] := .cons rfl .nil
  have htwo : Letters [.verbose, .verbose] [0x76, 0x76] := .cons rfl hone
  exact ⟨_, _, .cons (.name .quiet) <| .cons (.root hroot) <| .cons (.letters (by decide) hone) .nil,
    .cons (.root hroot) <| .cons (.letters (by decide) htwo) .nil, rfl⟩

theorem sampleQuiet_logAlone :
    Args.ofArguments sampleQuiet = .ok { Args.empty with roots := [.ofString "s"], verbose := 1, quiet := true } ∧
      Args.ofArguments sampleLoud = .ok { Args.empty with roots := [.ofString "s"], verbose := 2 } ∧
      SameButVerbosity sampleQuiet sampleLoud ∧
      LogAlone sampleQuiet sampleLoud { Args.empty with roots := [.ofString "s"], verbose := 1, quiet := true }
        { Args.empty with roots := [.ofString "s"], verbose := 2 } sampleTree := by
  have h : Args.ofArguments sampleQuiet =
      .ok { Args.empty with roots := [.ofString "s"], verbose := 1, quiet := true } := by decide +kernel
  have h' : Args.ofArguments sampleLoud = .ok { Args.empty with roots := [.ofString "s"], verbose := 2 } := by
    decide +kernel
  exact ⟨h, h', sampleQuiet_sameButVerbosity, execute_logAlone h h' sampleQuiet_sameButVerbosity sampleTree⟩

end Program

end BuilderAudit
