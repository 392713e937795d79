import BuilderAudit.Proofs.CommandLine.Settling

/-!
# What a command line says

Every command line that can be read says a list of things, and it is read as if these were taken over one by one. So
what comes of a command line depends only on what it says, however it is spelled.

* `State.reading_item`, `State.reading_spells` : what is spelled is read as what it says, faults included;
* `State.Spelled` : the ways to spell an argument that has been read (`State.spelled_of_argument`);
* `exists_spells` : a command line that can be read says something;
* `agrees_ofArguments` : a command line comes to what it says;
* `ofArguments_spelled` : every spelling of some arguments is read as these arguments.
-/

namespace BuilderAudit.CommandLine

variable {arg value text : Argument} {argv : List Argument} {os : List Occurrence}

namespace State

variable {st st' st₁ : State}

/-! ## Reading what is spelled -/

theorem foldlM_singleton (o : Occurrence) (st : State) : [o].foldlM accept st = st.accept o := by
  rw [List.foldlM_cons]
  exact bind_pure _

/-- What is taken over leaves nothing pending. -/
theorem settle_foldlM (h : st.settle = .ok st) (hrun : os.foldlM accept st = .ok st₁) : st₁.settle = .ok st₁ := by
  induction os generalizing st with
  | nil =>
      cases hrun
      exact h
  | cons o os ih =>
      rw [List.foldlM_cons] at hrun
      obtain ⟨st₂, ho, hrun⟩ := bind_eq_ok_iff.mp hrun
      exact ih (settle_accept h ho) hrun

/-- Letters of flags are read one after the other. -/
theorem short_flags {fs : List Flag} {letters : Argument} (hl : Letters fs letters) (h : st.settle = .ok st)
    (more : Argument) :
    st.short (letters ++ more) = (fs.map Occurrence.flag).foldlM accept st >>= fun st => st.short more := by
  induction hl generalizing st with
  | nil => rfl
  | @cons f b fs letters hb hl ih =>
      rw [List.cons_append, short, (Switch.ofByte?_of_byte? hb).1, List.map_cons, List.foldlM_cons, bind_assoc]
      dsimp only
      rw [flag_eq h]
      cases hf : st.accept (.flag f) with
      | error e => rfl
      | ok st₁ => exact ih (settle_accept h hf)

/-- A value that has been taken ends the wait for it. -/
theorem not_waits_of_taken (st : State) (s : Setting) (value : Argument) :
    ¬ Waits { st with pending := .setting s (some value) } := by
  rintro ⟨_, hpending⟩
  cases hpending

/-- An option that waits for its value is read with the argument behind it. -/
theorem reading_waiting (hvalue : Standalone value) (h : st.settle = .ok st) (s : Setting) (argv : List Argument) :
    Agrees Eq (st.setting s none >>= fun st => st.reading (value :: argv))
      (st.accept (.setting s value) >>= fun st => st.reading argv) := by
  have hsettled := reading_settled argv (not_waits_of_taken st s value)
  rw [settle_waiting h] at hsettled
  rw [setting_waiting h]
  show Agrees Eq (reading { st with pending := .setting s none } (value :: argv)) _
  rw [reading_cons hvalue.ne_hyphens, argument_standalone hvalue]
  exact hsettled

/-- What one or two arguments say is taken over before what follows them is read. -/
theorem reading_item {args : List Argument} (hitem : Item os args) (h : st.settle = .ok st) (argv : List Argument) :
    Agrees Eq (st.reading (args ++ argv)) (os.foldlM accept st >>= fun st => st.reading argv) := by
  cases hitem with
  | @root value hvalue =>
      have hroot := root_settled (not_waits_of_settle h) value fun st' hwaits => reading_settled argv hwaits
      rw [h] at hroot
      rw [List.singleton_append, reading_cons hvalue.ne_hyphens, argument_standalone hvalue, plain_eq h,
        foldlM_singleton]
      exact hroot
  | name f =>
      have hname : st.argument (Switch.flag f).long = st.flag f := argument_name st (.flag f)
      rw [List.singleton_append, reading_cons (Switch.long_ne _), hname, foldlM_singleton]
      exact .refl _
  | nameWith s value =>
      rw [List.singleton_append, reading_cons (Switch.long_append_ne _ _), argument_nameWith, setting_attached h,
        foldlM_singleton]
      exact .refl _
  | @nameThen s value hvalue =>
      rw [List.cons_append, List.singleton_append, reading_cons (Switch.long_ne _), argument_name, foldlM_singleton]
      exact reading_waiting hvalue h s argv
  | @letters fs letters hne hl =>
      obtain ⟨hletters, hhyphens⟩ := argument_letters hl [] (fun hnil => absurd hnil hne) st
      rw [short_flags hl h] at hletters
      rw [List.append_nil] at hletters hhyphens
      rw [List.singleton_append, reading_cons hhyphens, hletters, bind_assoc]
      exact .refl _
  | @lettersWith fs letters value text s b hl hb ht =>
      obtain ⟨hletters, hhyphens⟩ :=
        argument_letters hl (b :: text) (fun _ => ⟨b, text, rfl, (Switch.ofByte?_of_byte? hb).2⟩) st
      rw [List.singleton_append, reading_cons hhyphens, hletters, short_flags hl h, List.foldlM_append, bind_assoc,
        bind_assoc]
      cases hflags : (fs.map Occurrence.flag).foldlM accept st with
      | error e => exact .same e
      | ok st₂ =>
          show Agrees Eq (st₂.short (b :: text) >>= _) ([.setting s value].foldlM accept st₂ >>= _)
          rw [short_setting hb ht, setting_attached (settle_foldlM h hflags), foldlM_singleton]
          exact .refl _
  | @lettersThen fs letters value s b hl hb hvalue =>
      obtain ⟨hletters, hhyphens⟩ :=
        argument_letters hl [b] (fun _ => ⟨b, [], rfl, (Switch.ofByte?_of_byte? hb).2⟩) st
      rw [List.cons_append, List.singleton_append, reading_cons hhyphens, hletters, short_flags hl h,
        List.foldlM_append, bind_assoc, bind_assoc]
      cases hflags : (fs.map Occurrence.flag).foldlM accept st with
      | error e => exact .same e
      | ok st₂ =>
          show Agrees Eq (st₂.short [b] >>= _) ([.setting s value].foldlM accept st₂ >>= _)
          rw [short_waiting hb, foldlM_singleton]
          exact reading_waiting hvalue (settle_foldlM h hflags) s argv

/-- Roots behind two hyphens are taken over one by one. -/
theorem reading_values (h : st.settle = .ok st) (values : List Argument) :
    Agrees Eq (st.reading ([hyphen, hyphen] :: values)) ((values.map Occurrence.root).foldlM accept st) := by
  rw [reading_roots]
  induction values generalizing st with
  | nil => exact .of_eq h
  | cons value values ih =>
      have hroot := root_settled (not_waits_of_settle h) value fun st' hwaits => roots_settled values hwaits
      rw [h] at hroot
      rw [List.foldlM_cons, bind_assoc, List.map_cons, List.foldlM_cons]
      refine hroot.trans_eq ?_
      show Agrees Eq (st.accept (.root value) >>= _) _
      cases hvalue : st.accept (.root value) with
      | error e => exact .same e
      | ok st₁ => exact ih (settle_accept h hvalue)

/-- All that is said is taken over one by one. -/
theorem reading_spells (hspells : Spells os argv) (h : st.settle = .ok st) :
    Agrees Eq (st.reading argv) (os.foldlM accept st) := by
  induction hspells generalizing st with
  | nil => exact .of_eq h
  | @cons os more args argv hitem _ ih =>
      rw [List.foldlM_append]
      refine (reading_item hitem h argv).trans_eq ?_
      cases hrun : os.foldlM accept st with
      | error e => exact .same e
      | ok st₁ => exact ih (settle_foldlM h hrun)
  | roots values => exact reading_values h values

/-! ## Spelling what is read -/

/-- The ways to spell an argument that has led to a state: by itself, or with the value that the state waits for. -/
def Spelled (st' : State) (arg : Argument) : Prop :=
  (¬ st'.Waits ∧ ∃ os, Item os [arg]) ∨ (st'.Waits ∧ ∀ value, Standalone value → ∃ os, Item os [arg, value])

theorem waits_of_setting {s : Setting} (h : st.setting s none = .ok st') : st'.Waits := by
  cases hsettle : st.settle with
  | error e =>
      rw [setting, hsettle] at h
      cases h
  | ok st₀ =>
      rw [setting_waiting hsettle] at h
      cases h
      exact ⟨s, rfl⟩

theorem not_waits_of_attached {s : Setting} (h : st.setting s (some value) = .ok st') : ¬ st'.Waits := fun hwaits =>
  nomatch attached_of_waits h hwaits

theorem spelled_of_long (h : st.long text = .ok st') : st'.Spelled (hyphen :: hyphen :: text) := by
  have htext := List.takeWhile_append_dropWhile (p := (· != equals)) (l := text)
  unfold long at h
  dsimp only at h
  generalize hswitch : Switch.ofLongName? (text.takeWhile (· != equals)) = switch? at h
  cases switch? with
  | none => cases h
  | some switch =>
      have hname : Argument.ofString switch.longName = text.takeWhile (· != equals) := by
        simpa using List.find?_some hswitch
      rw [← hname] at htext
      rw [← htext]
      cases hattached : text.dropWhile (· != equals) with
      | nil =>
          rw [hattached] at h
          rw [List.append_nil]
          cases switch with
          | flag f => exact Or.inl ⟨not_waits_of_flag h, _, .name f⟩
          | setting s => exact Or.inr ⟨waits_of_setting h, fun value hvalue => ⟨_, .nameThen s hvalue⟩⟩
      | cons c value =>
          have hc : c = equals := by
            have hhead := List.head?_dropWhile_not (· != equals) text
            rw [hattached] at hhead
            simpa using hhead
          subst hc
          rw [hattached] at h
          cases switch with
          | flag f => cases h
          | setting s => exact Or.inl ⟨not_waits_of_attached h, _, .nameWith s value⟩

/-- What letters say: some flags, and perhaps an option with a value. -/
inductive LettersSpelled (st' : State) : Argument → Prop
  | flags {fs : List Flag} {letters : Argument} (h : Letters fs letters) (hwaits : fs ≠ [] → ¬ st'.Waits) :
      LettersSpelled st' letters
  | attached {fs : List Flag} {letters value text : Argument} {s : Setting} {b : UInt8} (h : Letters fs letters)
      (hb : (Switch.setting s).byte? = some b) (ht : Attached value text) (hwaits : ¬ st'.Waits) :
      LettersSpelled st' (letters ++ b :: text)
  | waiting {fs : List Flag} {letters : Argument} {s : Setting} {b : UInt8} (h : Letters fs letters)
      (hb : (Switch.setting s).byte? = some b) (hwaits : st'.Waits) : LettersSpelled st' (letters ++ [b])

theorem lettersSpelled_of_short (h : st.short text = .ok st') : st'.LettersSpelled text := by
  induction text generalizing st with
  | nil => exact .flags .nil (fun hne => absurd rfl hne)
  | cons b rest ih =>
      rw [short] at h
      generalize hswitch : Switch.ofByte? b = switch? at h
      cases switch? with
      | none => cases h
      | some switch =>
          have hb : switch.byte? = some b := by simpa using List.find?_some hswitch
          cases switch with
          | flag f =>
              dsimp only at h
              cases hflag : st.flag f with
              | error e =>
                  rw [hflag] at h
                  cases h
              | ok st₁ =>
                  rw [hflag] at h
                  cases ih h with
                  | @flags fs _ hl hwaits =>
                      refine .flags (.cons hb hl) fun _ => ?_
                      cases hl with
                      | nil =>
                          cases h
                          exact not_waits_of_flag hflag
                      | cons hb' hl => exact hwaits (List.cons_ne_nil _ _)
                  | attached hl hb' ht hwaits => exact .attached (.cons hb hl) hb' ht hwaits
                  | waiting hl hb' hwaits => exact .waiting (.cons hb hl) hb' hwaits
          | setting s =>
              cases rest with
              | nil => exact .waiting .nil hb (waits_of_setting h)
              | cons c value =>
                  dsimp only at h
                  split at h
                  · next hc =>
                    subst hc
                    exact .attached .nil hb .equals (not_waits_of_attached h)
                  · next hc =>
                    refine .attached .nil hb (.bare (List.cons_ne_nil c value) ?_) (not_waits_of_attached h)
                    simpa using hc

/-- Every argument that is read as an option is spelled. -/
theorem spelled_of_argument (hlooks : ¬ Standalone arg) (h : st.argument arg = .ok st') : st'.Spelled arg := by
  obtain ⟨b, rest, rfl⟩ := exists_of_not_standalone hlooks
  simp only [argument, if_true] at h
  by_cases hb : b = hyphen
  · subst hb
    rw [if_pos rfl] at h
    exact spelled_of_long h
  · rw [if_neg hb] at h
    generalize htext : b :: rest = text at h
    cases lettersSpelled_of_short h with
    | @flags fs _ hl hwaits =>
        have hne : fs ≠ [] := by
          rintro rfl
          cases hl
          cases htext
        exact Or.inl ⟨hwaits hne, _, .letters hne hl⟩
    | attached hl hb' ht hwaits => exact Or.inl ⟨hwaits, _, .lettersWith hl hb' ht⟩
    | waiting hl hb' hwaits => exact Or.inr ⟨hwaits, fun value hvalue => ⟨_, .lettersThen hl hb' hvalue⟩⟩

/-- Where an option waits for its value, the next argument is one. -/
theorem exists_standalone_of_waits (hwaits : st.Waits) (h : st.reading argv = .ok st₁) :
    ∃ value rest, argv = value :: rest ∧ Standalone value := by
  by_contra hnone
  simp only [not_exists, not_and] at hnone
  obtain ⟨e, he, -⟩ := fault_of_waits hwaits fun arg harg =>
    hnone arg argv.tail (List.eq_cons_of_mem_head? harg)
  rw [h] at he
  cases he

/-- Arguments that are read say something. -/
theorem exists_spells_of_reading (hwaits : ¬ st.Waits) (h : st.reading argv = .ok st₁) : ∃ os, Spells os argv := by
  -- an option that waits for its value takes the next argument with it
  induction hn : argv.length using Nat.strongRecOn generalizing st argv with
  | _ n ih =>
      cases argv with
      | nil => exact ⟨[], .nil⟩
      | cons arg argv =>
          by_cases hend : arg = [hyphen, hyphen]
          · subst hend
            exact ⟨_, .roots argv⟩
          · rw [reading_cons hend] at h
            obtain ⟨st', harg, hrest⟩ := bind_eq_ok_iff.mp h
            by_cases hlooks : Standalone arg
            · rw [argument_standalone hlooks, plain_eq_root hwaits] at harg
              obtain ⟨os, hos⟩ := ih argv.length (by simp [← hn]) (not_waits_of_root harg) hrest rfl
              exact ⟨_, .cons (.root hlooks) hos⟩
            · rcases spelled_of_argument hlooks harg with ⟨hwaits', os, hitem⟩ | ⟨hwaits', hitem⟩
              · obtain ⟨more, hmore⟩ := ih argv.length (by simp [← hn]) hwaits' hrest rfl
                exact ⟨_, .cons hitem hmore⟩
              · obtain ⟨value, argv, rfl, hvalue⟩ := exists_standalone_of_waits hwaits' hrest
                obtain ⟨s, hpending⟩ := hwaits'
                obtain ⟨os, hitem⟩ := hitem value hvalue
                rw [reading_cons hvalue.ne_hyphens, argument_standalone hvalue, plain, hpending] at hrest
                obtain ⟨more, hmore⟩ := ih argv.length (by simp [← hn]) (not_waits_of_taken st' s value) hrest rfl
                exact ⟨_, .cons hitem hmore⟩

end State

/-- **Every command line that can be read says something.** -/
theorem exists_spells {a : Args} (h : Args.ofArguments argv = .ok a) : ∃ os, Spells os argv := by
  rw [State.ofArguments_eq] at h
  obtain ⟨st, hreading, -⟩ := map_eq_ok_iff.mp h
  exact State.exists_spells_of_reading (State.not_waits_of_nothing rfl) hreading

/-- A command line comes to what it says. -/
theorem agrees_ofArguments (hspells : Spells os argv) :
    Agrees Eq (Args.ofArguments argv) ((os.foldlM State.accept State.start).map State.args) := by
  rw [State.ofArguments_eq]
  exact (State.reading_spells hspells (settle_of_nothing rfl)).map fun _ _ => congrArg State.args

theorem foldlM_of_ofArguments {a : Args} (hspells : Spells os argv) (h : Args.ofArguments argv = .ok a) :
    ∃ st, os.foldlM State.accept State.start = .ok st ∧ st.args = a := by
  have hagrees := agrees_ofArguments hspells
  rw [h] at hagrees
  exact map_eq_ok_iff.mp hagrees.symm.eq_ok

/-! ## Spelled arguments -/

/-- **Every spelling of some arguments is read as these arguments.** What is said is what the arguments hold: each
option and each set flag once, roots in order, and a word for each step of verbosity, of which no more than 255
count. -/
theorem ofArguments_spelled {a : Args} (ha : a.HasPaths) {os : List Occurrence} (hsaid : a.SaidBy os)
    {argv : List Argument} (h : Spells os argv) : Args.ofArguments argv = .ok a := by
  obtain ⟨st, hrun, -, rfl⟩ := foldlM_accept ha hsaid
  have hagrees := agrees_ofArguments h
  rw [hrun] at hagrees
  exact hagrees.eq_ok

/-- Arguments with two odd roots, one that is not valid UTF-8 and one that looks like an option. -/
def sampleSpelled : Args :=
  { Args.empty with
    roots := [⟨[0xFF]⟩, .ofString "-r"]
    config := some (.ofString "-")
    pattern := some "="
    marker := some ""
    format := .json
    legacyMarkerCheck := true
    verbose := 2
    quiet := true }

/-- All that these arguments hold, in some order. -/
def sampleOccurrences : List Occurrence :=
  [.flag .verbose, .flag .quiet, .setting .pattern (.ofString "="), .setting .marker [], .root [0xFF],
    .setting .config (.ofString "-"), .flag .verbose, .setting .format (.ofString "json"), .flag .legacyMarkerCheck,
    .root (.ofString "-r")]

def sampleArgv : List Argument :=
  [.ofString "-vqp==", .ofString "--marker", [], [0xFF], .ofString "-c", .ofString "-", .ofString "--verbose",
    .ofString "--format=json", .ofString "--legacy-marker-check", .ofString "--", .ofString "-r"]

theorem sampleArgv_spells : Spells sampleOccurrences sampleArgv := by
  have hletters : Letters [.verbose, .quiet] [0x76, 0x71] := .cons rfl (.cons rfl .nil)
  have hpattern : Item ([.flag .verbose, .flag .quiet] ++ [.setting .pattern (.ofString "=")]) [.ofString "-vqp=="] :=
    .lettersWith (b := 0x70) hletters rfl .equals
  have hconfig : Item ([] ++ [.setting .config (.ofString "-")]) [.ofString "-c", .ofString "-"] :=
    .lettersThen (s := .config) (b := 0x63) .nil rfl fun _ => rfl
  have hrest := Spells.cons (.name .verbose) <| .cons (.nameWith .format (.ofString "json")) <|
    .cons (.name .legacyMarkerCheck) <| .roots [.ofString "-r"]
  have hempty : Standalone [] := fun h => nomatch h
  have hroot : Standalone [0xFF] := fun h => absurd h (by decide)
  exact .cons hpattern <| .cons (.nameThen .marker hempty) <| .cons (.root hroot) <| .cons hconfig hrest

theorem sampleArgv_ofArguments :
    sampleSpelled.HasPaths ∧ sampleSpelled.SaidBy sampleOccurrences ∧ Spells sampleOccurrences sampleArgv ∧
      Args.ofArguments sampleArgv = .ok sampleSpelled := by
  have hpaths : sampleSpelled.HasPaths := by
    refine ⟨by decide, fun p hp => ?_⟩
    obtain rfl : p = .ofString "-" := by simpa [sampleSpelled, Args.empty] using hp
    decide
  have hsaid : sampleSpelled.SaidBy sampleOccurrences :=
    ⟨by decide, fun s => by cases s <;> decide, fun f => by cases f <;> rfl⟩
  exact ⟨hpaths, hsaid, sampleArgv_spells, ofArguments_spelled hpaths hsaid sampleArgv_spells⟩

end BuilderAudit.CommandLine
