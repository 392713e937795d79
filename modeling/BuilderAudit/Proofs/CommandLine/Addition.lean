import BuilderAudit.Proofs.CommandLine.Reading

/-!
# One more option on a command line

A command line that names no output file can name one without saying anything else. The option may be put wherever
options may stand, in any spelling; the arguments that come out are the same but for the output file, and a command line
that asks for help or has a fault still does.

* `named?` : the option with a value that an argument names, with the value that is attached to it;
* `NamesNoOutput`, `Fits` : command lines without an output file, and places where an option may be put;
* `State.Gains` : states that are the same but for the output file, kept by everything that is read;
* `ofArguments_added` : what comes of a command line with an output file added.
-/

namespace BuilderAudit.CommandLine

/-! ## What an argument names -/

/-- The option with a value among letters, with what is attached to it. -/
def namedByLetters? : Argument → Option (Setting × Option Argument)
  | [] => none
  | b :: rest =>
    match Switch.ofByte? b with
    | none => none
    | some (.flag _) => namedByLetters? rest
    | some (.setting s) =>
      match rest with
      | [] => some (s, none)
      | c :: value => some (s, some (if c = equals then value else c :: value))

/-- The option with a value of some name, with what is attached to it. -/
def namedByName? (text : Argument) : Option (Setting × Option Argument) :=
  match Switch.ofLongName? (text.takeWhile (· != equals)) with
  | some (.setting s) =>
    match text.dropWhile (· != equals) with
    | [] => some (s, none)
    | _ :: value => some (s, some value)
  | _ => none

/-- The option with a value that an argument names, with what is attached to it. -/
def named? : Argument → Option (Setting × Option Argument)
  | a :: b :: rest => if a = hyphen then if b = hyphen then namedByName? rest else namedByLetters? (b :: rest) else none
  | _ => none

/-- No option of a command line names an output file. -/
def NamesNoOutput (argv : List Argument) : Prop :=
  ∀ arg ∈ argv.takeWhile (· != [hyphen, hyphen]), (named? arg).map Prod.fst ≠ some .outputFile

/-- An option may be put between these arguments: options have not ended, and no option waits there for a value that
comes behind it. -/
structure Fits (front back : List Argument) : Prop where
  options : [hyphen, hyphen] ∉ front
  values : ∀ last ∈ front.getLast?, (named? last).map Prod.snd = some none → ∀ next ∈ back.head?, ¬ Standalone next

def Args.withOutput (a : Args) (p : Path) : Args := { a with outputFile := some p }

namespace State

variable {st st' st₀ st₁ : State} {arg value text : Argument} {argv front back : List Argument} {p : Path} {s : Setting}

theorem named_of_long (h : st.long text = .ok st') (hwaits : st'.Waits) : ∃ s, namedByName? text = some (s, none) := by
  unfold long at h
  unfold namedByName?
  dsimp only at h
  generalize Switch.ofLongName? (text.takeWhile (· != equals)) = switch? at h ⊢
  cases switch? with
  | none => cases h
  | some switch =>
      cases switch with
      | setting s =>
          have hattached := attached_of_waits h hwaits
          generalize text.dropWhile (· != equals) = attached at hattached ⊢
          cases attached with
          | nil => exact ⟨s, rfl⟩
          | cons _ value => cases hattached
      | flag f =>
          generalize text.dropWhile (· != equals) = attached at h
          cases attached with
          | nil => exact absurd hwaits (not_waits_of_flag h)
          | cons _ value => cases h

theorem named_of_short (hne : text ≠ []) (h : st.short text = .ok st') (hwaits : st'.Waits) :
    ∃ s, namedByLetters? text = some (s, none) := by
  induction text generalizing st with
  | nil => exact absurd rfl hne
  | cons b rest ih =>
      rw [short] at h
      rw [namedByLetters?]
      generalize Switch.ofByte? b = switch? at h ⊢
      cases switch? with
      | none => cases h
      | some switch =>
          cases switch with
          | flag f =>
              dsimp only at h ⊢
              cases hflag : st.flag f with
              | error e =>
                  rw [hflag] at h
                  cases h
              | ok st₁ =>
                  rw [hflag] at h
                  cases rest with
                  | nil =>
                      cases h
                      exact absurd hwaits (not_waits_of_flag hflag)
                  | cons c rest => exact ih (List.cons_ne_nil c rest) h
          | setting s =>
              cases rest with
              | nil => exact ⟨s, rfl⟩
              | cons c value => cases attached_of_waits h hwaits

/-- An option waits for its value behind the argument that names it. -/
theorem named_of_argument (h : st.argument arg = .ok st') (hwaits : st'.Waits) : ∃ s, named? arg = some (s, none) := by
  by_cases hlooks : Standalone arg
  · rw [argument_standalone hlooks, plain] at h
    split at h
    · cases h
      obtain ⟨s, hs⟩ := hwaits
      cases hs
    · exact absurd hwaits (not_waits_of_root h)
  · obtain ⟨b, rest, rfl⟩ := exists_of_not_standalone hlooks
    simp only [argument, named?, if_true] at h ⊢
    by_cases hb : b = hyphen
    · rw [if_pos hb] at h ⊢
      exact named_of_long h hwaits
    · rw [if_neg hb] at h ⊢
      exact named_of_short (List.cons_ne_nil b rest) h hwaits

theorem parse_append (hend : [hyphen, hyphen] ∉ front) (st : State) (back : List Argument) :
    st.parse (front ++ back) = st.parse front >>= fun st => st.parse back := by
  induction front generalizing st with
  | nil => rfl
  | cons arg front ih =>
      rw [List.mem_cons, not_or] at hend
      rw [List.cons_append, parse_cons (Ne.symm hend.1), parse_cons (Ne.symm hend.1), bind_assoc]
      congr 1
      funext st
      exact ih hend.2 st

theorem reading_append (hend : [hyphen, hyphen] ∉ front) (st : State) (back : List Argument) :
    st.reading (front ++ back) = st.parse front >>= fun st => st.reading back := by
  rw [reading, parse_append hend, bind_assoc]
  rfl

theorem named_of_parse (hend : [hyphen, hyphen] ∉ argv) (h : start.parse argv = .ok st') (hwaits : st'.Waits) :
    ∃ last ∈ argv.getLast?, (named? last).map Prod.snd = some none := by
  rcases List.eq_nil_or_concat argv with rfl | ⟨init, last, rfl⟩
  · cases h
    exact absurd hwaits (not_waits_of_nothing rfl)
  · rw [List.concat_eq_append] at hend h ⊢
    rw [List.mem_append, not_or, List.mem_singleton] at hend
    rw [parse_append hend.1, bind_eq_ok_iff] at h
    obtain ⟨st, -, h⟩ := h
    rw [parse_cons (Ne.symm hend.2), bind_eq_ok_iff] at h
    obtain ⟨_, hlast, h⟩ := h
    cases h
    obtain ⟨s, hnamed⟩ := named_of_argument hlast hwaits
    exact ⟨last, by simp, by rw [hnamed]; rfl⟩

/-! ## States that gain an output file -/

/-- The second state is the first one with an output file added. -/
structure Gains (p : Path) (st st' : State) : Prop where
  args : st'.args = st.args.withOutput p
  lacks : st.args.outputFile = none
  notGiven : Setting.outputFile ∉ st.given
  given : ∀ s ≠ .outputFile, (s ∈ st'.given ↔ s ∈ st.given)
  pending : st'.pending = st.pending
  notPending : ∀ value, st.pending ≠ .setting .outputFile value

theorem Gains.withPending (h : Gains p st st') {pending : Pending}
    (hpending : ∀ value, pending ≠ .setting .outputFile value) :
    Gains p { st with pending } { st' with pending } :=
  ⟨h.args, h.lacks, h.notGiven, h.given, rfl, hpending⟩

theorem Gains.withArgs (h : Gains p st st') {args : Args} (hargs : args.outputFile = none) :
    Gains p { st with args } { st' with args := args.withOutput p } :=
  ⟨rfl, hargs, h.notGiven, h.given, h.pending, h.notPending⟩

/-- Options other than the output file are taken over beside it. -/
theorem withSetting_withOutput (a : Args) (hs : s ≠ .outputFile) (value : Argument) (p : Path) :
    (a.withOutput p).withSetting value s = (a.withSetting value s).map fun b => b.withOutput p := by
  cases s with
  | outputFile => exact absurd rfl hs
  | config | destination =>
      simp only [Args.withSetting]
      cases path? value <;> rfl
  | pattern | marker | builderNamespace =>
      simp only [Args.withSetting]
      cases text? value <;> rfl
  | format =>
      simp only [Args.withSetting]
      cases [ReportFormat.text, .json].find? fun f => Argument.ofString f.name == value <;> rfl

theorem outputFile_of_withSetting {a b : Args} (hs : s ≠ .outputFile) (h : a.withSetting value s = .ok b) :
    b.outputFile = a.outputFile := by
  cases s with
  | outputFile => exact absurd rfl hs
  | config | destination | pattern | marker | builderNamespace =>
      obtain ⟨_, -, rfl⟩ := map_eq_ok_iff.mp h
      rfl
  | format =>
      rw [Args.withSetting] at h
      split at h
      · cases h
        rfl
      · cases h

theorem gains_take (h : Gains p st st') (hs : s ≠ .outputFile) (value : Argument) :
    Agrees (Gains p) (st.take s value) (st'.take s value) := by
  rw [take, take]
  by_cases hgiven : s ∈ st.given
  · rw [if_pos hgiven, if_pos ((h.given s hs).mpr hgiven)]
    exact .same _
  · rw [if_neg hgiven, if_neg (mt (h.given s hs).mp hgiven), h.args, withSetting_withOutput st.args hs]
    cases hargs : st.args.withSetting value s with
    | error e => exact .same e
    | ok args =>
        refine .ok ⟨rfl, (outputFile_of_withSetting hs hargs).trans h.lacks, ?_, fun s' hs' => ?_, h.pending,
          h.notPending⟩
        · rw [List.mem_cons, not_or]
          exact ⟨Ne.symm hs, h.notGiven⟩
        · rw [List.mem_cons, List.mem_cons, h.given s' hs']

theorem gains_settle (h : Gains p st st') : Agrees (Gains p) st.settle st'.settle := by
  have hnothing : Gains p { st with pending := .nothing } { st' with pending := .nothing } := h.withPending (by simp)
  rw [settle, settle, h.pending]
  cases hpending : st.pending with
  | nothing => exact .ok h
  | setting s value? =>
      cases value? with
      | none => exact .same _
      | some value =>
          have hs : s ≠ .outputFile := by
            rintro rfl
            exact h.notPending _ hpending
          exact gains_take hnothing hs value
  | roots values =>
      dsimp only
      refine (Agrees.refl (values.mapM path?)).bind ?_
      rintro paths _ rfl
      refine .ok ?_
      rw [h.args]
      exact hnothing.withArgs h.lacks

theorem gains_flag (h : Gains p st st') (f : Flag) : Agrees (Gains p) (st.flag f) (st'.flag f) := by
  refine (gains_settle h).bind fun st₀ st₀' h₀ => ?_
  obtain ⟨args, given, pending⟩ := st₀'
  obtain rfl : args = _ := h₀.args
  cases f with
  | legacyMarkerCheck =>
      show Agrees _ (if st₀.args.legacyMarkerCheck then _ else _) (if st₀.args.legacyMarkerCheck then _ else _)
      split
      · exact .same _
      · exact .ok (h₀.withArgs h₀.lacks)
  | skipUnreadable =>
      show Agrees _ (if st₀.args.skipUnreadable then _ else _) (if st₀.args.skipUnreadable then _ else _)
      split
      · exact .same _
      · exact .ok (h₀.withArgs h₀.lacks)
  | verbose => exact .ok (h₀.withArgs h₀.lacks)
  | quiet =>
      show Agrees _ (if st₀.args.quiet then _ else _) (if st₀.args.quiet then _ else _)
      split
      · exact .same _
      · exact .ok (h₀.withArgs h₀.lacks)
  | help => exact .same _
  | version => exact .same _

theorem gains_setting (h : Gains p st st') (hs : s ≠ .outputFile) (attached : Option Argument) :
    Agrees (Gains p) (st.setting s attached) (st'.setting s attached) := by
  refine (gains_settle h).bind fun st₀ st₀' h₀ => ?_
  cases attached with
  | some value => exact gains_take h₀ hs value
  | none =>
      refine .ok (h₀.withPending fun value heq => ?_)
      cases heq
      exact hs rfl

theorem gains_long (h : Gains p st st') (hnamed : ∀ value, namedByName? text ≠ some (.outputFile, value)) :
    Agrees (Gains p) (st.long text) (st'.long text) := by
  unfold namedByName? at hnamed
  unfold long
  dsimp only
  generalize Switch.ofLongName? (text.takeWhile (· != equals)) = switch? at hnamed ⊢
  cases switch? with
  | none => exact .same _
  | some switch =>
      cases switch with
      | setting s =>
          have hs : s ≠ .outputFile := by
            rintro rfl
            generalize text.dropWhile (· != equals) = attached at hnamed
            cases attached with
            | nil => exact hnamed _ rfl
            | cons _ value => exact hnamed _ rfl
          exact gains_setting h hs _
      | flag f =>
          cases text.dropWhile (· != equals) with
          | nil => exact gains_flag h f
          | cons _ value => exact .same _

theorem gains_short (h : Gains p st st') (hnamed : ∀ value, namedByLetters? text ≠ some (.outputFile, value)) :
    Agrees (Gains p) (st.short text) (st'.short text) := by
  induction text generalizing st st' with
  | nil => exact .ok h
  | cons b rest ih =>
      rw [namedByLetters?] at hnamed
      rw [short, short]
      generalize Switch.ofByte? b = switch? at hnamed ⊢
      cases switch? with
      | none => exact .same _
      | some switch =>
          cases switch with
          | flag f =>
              have hflag := gains_flag h f
              dsimp only
              generalize st.flag f = x, st'.flag f = y at hflag ⊢
              cases hflag with
              | ok h => exact ih h hnamed
              | same e => exact .same e
              | fault he he' => exact .fault he he'
          | setting s =>
              cases rest with
              | nil => exact gains_setting h (fun hs => hnamed none (by rw [hs])) none
              | cons c value => exact gains_setting h (fun hs => hnamed _ (by rw [hs])) _

theorem gains_root (h : Gains p st st') (value : Argument) : Agrees (Gains p) (st.root value) (st'.root value) := by
  have hsettle : Agrees (Gains p) (st.settle >>= fun st₀ => .ok { st₀ with pending := .roots [value] })
      (st'.settle >>= fun st₀ => .ok { st₀ with pending := .roots [value] }) :=
    (gains_settle h).bind fun st₀ st₀' h₀ => .ok (h₀.withPending (by simp))
  rw [root, root, h.pending]
  cases st.pending with
  | nothing => exact hsettle
  | setting s value? => exact hsettle
  | roots values => exact .ok (h.withPending (by simp))

theorem gains_plain (h : Gains p st st') (value : Argument) : Agrees (Gains p) (st.plain value) (st'.plain value) := by
  rw [plain, plain, h.pending]
  split
  · next s hpending =>
    refine .ok (h.withPending fun value' heq => ?_)
    cases heq
    exact h.notPending _ hpending
  · exact gains_root h value

theorem gains_argument (h : Gains p st st') (hnamed : ∀ value, named? arg ≠ some (.outputFile, value)) :
    Agrees (Gains p) (st.argument arg) (st'.argument arg) := by
  by_cases hlooks : Standalone arg
  · rw [argument_standalone hlooks, argument_standalone hlooks]
    exact gains_plain h arg
  · obtain ⟨b, rest, rfl⟩ := exists_of_not_standalone hlooks
    simp only [argument, named?, if_true] at hnamed ⊢
    by_cases hb : b = hyphen
    · rw [if_pos hb] at hnamed
      rw [if_pos hb, if_pos hb]
      exact gains_long h hnamed
    · rw [if_neg hb] at hnamed
      rw [if_neg hb, if_neg hb]
      exact gains_short h hnamed

theorem gains_roots (h : Gains p st st') (values : List Argument) :
    Agrees (Gains p) (values.foldlM root st) (values.foldlM root st') := by
  induction values generalizing st st' with
  | nil => exact .ok h
  | cons value values ih =>
      rw [List.foldlM_cons, List.foldlM_cons]
      exact (gains_root h value).bind fun _ _ h => ih h

/-- Arguments that name no output file keep the difference as it is. -/
theorem gains_parse (h : Gains p st st') (hnames : NamesNoOutput argv) :
    Agrees (Gains p) (st.parse argv) (st'.parse argv) := by
  induction argv generalizing st st' with
  | nil => exact .ok h
  | cons arg argv ih =>
      by_cases hend : arg = [hyphen, hyphen]
      · rw [parse, parse, if_pos hend, if_pos hend]
        exact gains_roots h argv
      · have htake : (arg :: argv).takeWhile (· != [hyphen, hyphen]) =
            arg :: argv.takeWhile (· != [hyphen, hyphen]) := by
          rw [List.takeWhile_cons_of_pos (by simpa using hend)]
        rw [NamesNoOutput, htake, List.forall_mem_cons] at hnames
        rw [parse_cons hend, parse_cons hend]
        refine (gains_argument h fun value hnamed => hnames.1 ?_).bind fun _ _ h => ih h hnames.2
        rw [hnamed]
        rfl

theorem gains_reading (h : Gains p st st') (hnames : NamesNoOutput argv) :
    Agrees (Gains p) (st.reading argv) (st'.reading argv) :=
  (gains_parse h hnames).bind fun _ _ h => gains_settle h

/-! ## The option itself -/

/-- However an option with a value is spelled, it looks like an option. -/
theorem not_standalone_of_item {os : List Occurrence} {spelled : List Argument} (h : Item os spelled)
    (hroot : ∀ value, os ≠ [.root value]) : ∃ arg more, spelled = arg :: more ∧ ¬ Standalone arg := by
  have hlong : ∀ (switch : Switch) more, ¬ Standalone (switch.long ++ more) := by
    intro switch more hlooks
    cases hlooks rfl
  have hshort : ∀ {text : Argument}, text ≠ [] → ¬ Standalone (hyphen :: text) := by
    intro text hne hlooks
    exact hne (List.cons.inj (hlooks rfl)).2
  cases h with
  | root h => exact absurd rfl (hroot _)
  | name f =>
      have hlooks := hlong (.flag f) []
      rw [List.append_nil] at hlooks
      exact ⟨_, _, rfl, hlooks⟩
  | nameWith s value => exact ⟨_, _, rfl, hlong (.setting s) _⟩
  | nameThen s h =>
      have hlooks := hlong (.setting s) []
      rw [List.append_nil] at hlooks
      exact ⟨_, _, rfl, hlooks⟩
  | @letters fs letters hne h =>
      refine ⟨_, _, rfl, hshort ?_⟩
      rintro rfl
      cases h
      exact hne rfl
  | lettersWith h hb ht => exact ⟨_, _, rfl, hshort (by simp)⟩
  | lettersThen h hb hvalue => exact ⟨_, _, rfl, hshort (by simp)⟩

/-- A state that has taken over an output file has gained it. -/
theorem gains_accept (hnothing : st₀.pending = .nothing) (hlacks : st₀.args.outputFile = none)
    (hgiven : Setting.outputFile ∉ st₀.given) {file : Argument} (hfile : file ≠ []) :
    ∃ st₁, st₀.accept (.setting .outputFile file) = .ok st₁ ∧ Gains ⟨file⟩ st₀ st₁ := by
  refine ⟨{ st₀ with args := st₀.args.withOutput ⟨file⟩, given := .outputFile :: st₀.given }, ?_, rfl, hlacks,
    hgiven, ?_, rfl, ?_⟩
  · rw [accept, take, if_neg hgiven, Args.withSetting, path?, if_neg (by simpa using hfile)]
    rfl
  · intro s hs
    rw [List.mem_cons]
    exact ⟨fun h => h.resolve_left hs, Or.inr⟩
  · intro value h
    rw [hnothing] at h
    cases h

variable {spelled : List Argument} {file : Argument}

/-- An output file is added where an option may stand and nothing waits. -/
theorem reading_added (hst : Gains p st st') (hwaits : ¬ st.Waits) (hnames : NamesNoOutput back)
    (hitem : Item [.setting .outputFile file] spelled) (hfile : file ≠ []) :
    Agrees (Gains ⟨file⟩) (st.reading back) (st.reading (spelled ++ back)) := by
  refine (reading_settled back hwaits).eq_trans (.trans_eq ?_ (reading_settled (spelled ++ back) hwaits).symm)
  have hsettled := gains_settle hst
  cases hsettle : st.settle with
  | error e => exact .same e
  | ok st₀ =>
      rw [hsettle] at hsettled
      generalize st'.settle = x at hsettled
      cases hsettled with
      | ok h₀ =>
          obtain ⟨st₁, haccept, hgains⟩ := gains_accept (pending_of_settle hsettle) h₀.lacks h₀.notGiven hfile
          have hspelled := reading_item hitem (settle_settled hsettle) back
          rw [foldlM_singleton, haccept] at hspelled
          exact (gains_reading hgains hnames).trans_eq hspelled.symm

end State

variable {front back spelled : List Argument} {file : Argument}

theorem namesNoOutput_append (hend : [hyphen, hyphen] ∉ front) (h : NamesNoOutput (front ++ back)) :
    NamesNoOutput front ∧ NamesNoOutput back := by
  have hall : ∀ arg ∈ front, (arg != [hyphen, hyphen]) = true := by
    rintro arg harg
    simpa using fun heq : arg = [hyphen, hyphen] => hend (heq ▸ harg)
  rw [NamesNoOutput, List.takeWhile_append_of_pos hall, List.forall_mem_append] at h
  rw [NamesNoOutput, List.takeWhile_eq_self_iff.mpr hall]
  exact h

/-- A command line with an output file added says the same otherwise, asks for the same text, or has a fault as
before. -/
theorem ofArguments_added (hnames : NamesNoOutput (front ++ back)) (hfits : Fits front back)
    (hitem : Item [.setting .outputFile file] spelled) (hfile : file ≠ []) :
    Agrees (fun a a' => a.outputFile = none ∧ a' = a.withOutput ⟨file⟩) (Args.ofArguments (front ++ back))
      (Args.ofArguments (front ++ (spelled ++ back))) := by
  obtain ⟨hfront, hback⟩ := namesNoOutput_append hfits.options hnames
  have hreading : Agrees (State.Gains ⟨file⟩) (State.start.reading (front ++ back))
      (State.start.reading (front ++ (spelled ++ back))) := by
    rw [State.reading_append hfits.options, State.reading_append hfits.options]
    -- the state behind `front` could have gained an output file as well, so it has none
    have hstart : State.Gains ⟨file⟩ State.start { State.start with args := Args.empty.withOutput ⟨file⟩ } :=
      ⟨rfl, rfl, nofun, fun _ _ => Iff.rfl, rfl, nofun⟩
    have hparse := State.gains_parse hstart hfront
    cases hst : State.start.parse front with
    | error e => exact .same e
    | ok st =>
        rw [hst] at hparse
        generalize State.parse _ front = x at hparse
        cases hparse with
        | ok h =>
            by_cases hwaits : st.Waits
            · obtain ⟨last, hlast, hnamed⟩ := State.named_of_parse hfits.options hst hwaits
              obtain ⟨arg, more, rfl, hlooks⟩ := State.not_standalone_of_item hitem nofun
              obtain ⟨e, he, hfault⟩ := State.fault_of_waits hwaits (hfits.values last hlast hnamed)
              obtain ⟨e', he', hfault'⟩ := @State.fault_of_waits st (arg :: more ++ back) hwaits (by
                rintro _ ⟨⟩
                exact hlooks)
              show Agrees _ (st.reading back) (st.reading (arg :: more ++ back))
              rw [he, he']
              exact .fault hfault hfault'
            · exact State.reading_added h hwaits hback hitem hfile
  rw [State.ofArguments_eq, State.ofArguments_eq]
  exact hreading.map fun _ _ h => ⟨h.lacks, h.args⟩

end BuilderAudit.CommandLine
