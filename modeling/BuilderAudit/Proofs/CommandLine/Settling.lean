import BuilderAudit.Proofs.CommandLine.Spelling

/-!
# Arguments and what is pending in front of them

What has been read is taken over late, so that a fault in it may come to light long after it, or be hidden by another
fault. It makes no difference to what a command line comes to: unless an option waits for its value, arguments are read
as if everything had been taken over before them.

* `Stop.IsFault` : the command line has a fault, and asks neither for help nor for the version;
* `Agrees` : two readings with related results, or that ask for the same text, or with faults of any kind;
* `argument_settled`, `reading_settled` : what is pending can be taken over first;
* `fault_of_waits` : an option that waits for its value in vain;
* `attached_of_waits`, `not_waits_of_flag` : only an option without a value attached waits for one.
-/

namespace BuilderAudit.CommandLine

/-- The command line has a fault, and asks neither for help nor for the version. -/
def Stop.IsFault (e : Stop) : Prop := e ≠ .help ∧ e ≠ .version

instance (e : Stop) : Decidable e.IsFault := inferInstanceAs (Decidable (_ ∧ _))

/-- Two readings that come to the same: their results are related, or they ask for the same text, or both have
faults. -/
inductive Agrees {α β : Type} (r : α → β → Prop) : Except Stop α → Except Stop β → Prop
  | ok {a : α} {b : β} (h : r a b) : Agrees r (.ok a) (.ok b)
  | same (e : Stop) : Agrees r (.error e) (.error e)
  | fault {e e' : Stop} (h : e.IsFault) (h' : e'.IsFault) : Agrees r (.error e) (.error e')

namespace Agrees

variable {α β γ δ : Type} {r : α → β → Prop} {q : γ → δ → Prop} {x x' : Except Stop α} {y y' : Except Stop β}

theorem refl (x : Except Stop α) : Agrees Eq x x := by
  cases x with
  | error e => exact .same e
  | ok a => exact .ok rfl

theorem of_eq (h : x = x') : Agrees Eq x x' := h ▸ refl x

theorem symm (h : Agrees Eq x x') : Agrees Eq x' x := by
  cases h with
  | ok h => exact .ok h.symm
  | same e => exact .same e
  | fault h h' => exact .fault h' h

theorem eq_trans (h : Agrees Eq x x') (h' : Agrees r x' y) : Agrees r x y := by
  cases h with
  | ok h => exact h ▸ h'
  | same e => exact h'
  | fault h h₁ =>
      cases h' with
      | same e => exact .fault h h₁
      | fault h₁ h₂ => exact .fault h h₂

theorem trans_eq (h : Agrees r x y) (h' : Agrees Eq y y') : Agrees r x y' := by
  cases h with
  | ok h =>
      cases h' with
      | ok h' => exact .ok (h' ▸ h)
  | same e =>
      cases h' with
      | same e => exact .same e
      | fault h h' => exact .fault h h'
  | fault h h₁ =>
      cases h' with
      | same e => exact .fault h h₁
      | fault h₁ h₂ => exact .fault h h₂

theorem bind {f : α → Except Stop γ} {g : β → Except Stop δ} (h : Agrees r x y)
    (hnext : ∀ a b, r a b → Agrees q (f a) (g b)) : Agrees q (x >>= f) (y >>= g) := by
  cases h with
  | ok h => exact hnext _ _ h
  | same e => exact .same e
  | fault h h' => exact .fault h h'

theorem map {f : α → γ} {g : β → δ} (h : Agrees r x y) (hmap : ∀ a b, r a b → q (f a) (g b)) :
    Agrees q (x.map f) (y.map g) :=
  h.bind fun a b hab => .ok (hmap a b hab)

theorem eq_ok {a : α} (h : Agrees Eq x (.ok a)) : x = .ok a := by
  cases h with
  | ok h => rw [h]

end Agrees

namespace State

variable {st st' st₀ : State} {arg value : Argument} {argv : List Argument} {e : Stop}

/-! ## Faults in what is pending -/

theorem isFault_of_withSetting {a : Args} {s : Setting} (h : a.withSetting value s = .error e) : e.IsFault := by
  have hpath : ∀ {f : Path → Args}, (path? value).map f = .error e → e.IsFault := by
    intro f h
    unfold path? at h
    split at h
    · cases h
      decide
    · cases h
  have htext : ∀ {f : String → Args}, (text? value).map f = .error e → e.IsFault := by
    intro f h
    unfold text? at h
    split at h
    · cases h
    · cases h
      decide
  cases s with
  | config | destination | outputFile => exact hpath h
  | pattern | marker | builderNamespace => exact htext h
  | format =>
      rw [Args.withSetting] at h
      split at h
      · cases h
      · cases h
        decide

theorem isFault_of_take {s : Setting} (h : st.take s value = .error e) : e.IsFault := by
  unfold take at h
  split at h
  · cases h
    decide
  · cases hargs : st.args.withSetting value s with
    | ok args =>
        rw [hargs] at h
        cases h
    | error cause =>
        rw [hargs] at h
        cases h
        exact isFault_of_withSetting hargs

theorem isFault_of_paths {values : List Argument} (h : values.mapM path? = .error e) : e.IsFault := by
  induction values with
  | nil => cases h
  | cons value values ih =>
      rw [List.mapM_cons] at h
      cases hvalue : path? value with
      | error cause =>
          rw [hvalue] at h
          cases h
          unfold path? at hvalue
          split at hvalue
          · cases hvalue
            decide
          · cases hvalue
      | ok p =>
          cases hvalues : values.mapM path? with
          | error cause =>
              rw [hvalue, hvalues] at h
              cases h
              exact ih hvalues
          | ok ps =>
              rw [hvalue, hvalues] at h
              cases h

theorem isFault_of_settle (h : st.settle = .error e) : e.IsFault := by
  unfold settle at h
  split at h
  · cases h
  · cases h
    decide
  · exact isFault_of_take h
  · next values _ =>
    cases hpaths : values.mapM path? with
    | error cause =>
        rw [hpaths] at h
        cases h
        exact isFault_of_paths hpaths
    | ok paths =>
        rw [hpaths] at h
        cases h

/-! ## Options -/

/-- A fault that comes to light before what is pending is taken over. -/
theorem agrees_of_fault {f : State → Except Stop State} (he : e.IsFault)
    (hf : ∀ st₀, st.settle = .ok st₀ → f st₀ = .error e) : Agrees Eq (.error e) (st.settle >>= f) := by
  cases hsettle : st.settle with
  | error e' => exact .fault he (isFault_of_settle hsettle)
  | ok st₀ => exact .of_eq (hf st₀ hsettle).symm

theorem flag_settled (st : State) (f : Flag) : st.flag f = st.settle >>= fun st₀ => st₀.flag f := by
  cases hsettle : st.settle with
  | error e => rw [flag, hsettle]; rfl
  | ok st₀ => exact (flag_eq hsettle f).trans (flag_eq (settle_settled hsettle) f).symm

theorem setting_settled (st : State) (s : Setting) (attached : Option Argument) :
    st.setting s attached = st.settle >>= fun st₀ => st₀.setting s attached := by
  cases hsettle : st.settle with
  | error e => rw [setting, hsettle]; rfl
  | ok st₀ =>
      cases attached with
      | some value =>
          exact (setting_attached hsettle s value).trans (setting_attached (settle_settled hsettle) s value).symm
      | none => exact (setting_waiting hsettle s).trans (setting_waiting (settle_settled hsettle) s).symm

theorem long_settled (st : State) (text : Argument) :
    Agrees Eq (st.long text) (st.settle >>= fun st₀ => st₀.long text) := by
  unfold long
  dsimp only
  cases Switch.ofLongName? (text.takeWhile (· != equals)) with
  | none => exact agrees_of_fault (by decide) fun _ _ => rfl
  | some switch =>
      cases switch with
      | setting s => exact .of_eq (setting_settled st s _)
      | flag f =>
          cases text.dropWhile (· != equals) with
          | nil => exact .of_eq (flag_settled st f)
          | cons _ value => exact agrees_of_fault (by decide) fun _ _ => rfl

theorem short_settled (st : State) (b : UInt8) (rest : Argument) :
    Agrees Eq (st.short (b :: rest)) (st.settle >>= fun st₀ => st₀.short (b :: rest)) := by
  simp only [short]
  cases Switch.ofByte? b with
  | none => exact agrees_of_fault (by decide) fun _ _ => rfl
  | some switch =>
      cases switch with
      | flag f =>
          refine .of_eq ?_
          dsimp only
          rw [flag_settled st f]
          cases st.settle <;> rfl
      | setting s =>
          cases rest with
          | nil => exact .of_eq (setting_settled st s none)
          | cons c value => exact .of_eq (setting_settled st s _)

/-- An argument that looks like an option. -/
theorem exists_of_not_standalone (h : ¬ Standalone arg) : ∃ b rest, arg = hyphen :: b :: rest := by
  rw [Standalone, Classical.not_imp] at h
  obtain ⟨hhead, hne⟩ := h
  match arg with
  | [] => cases hhead
  | [a] =>
      cases hhead
      exact absurd rfl hne
  | a :: b :: rest =>
      cases hhead
      exact ⟨b, rest, rfl⟩

/-- Options are read as if what is pending had been taken over before. -/
theorem argument_settled (h : ¬ Standalone arg) (st : State) :
    Agrees Eq (st.argument arg) (st.settle >>= fun st₀ => st₀.argument arg) := by
  obtain ⟨b, rest, rfl⟩ := exists_of_not_standalone h
  simp only [argument, if_true]
  by_cases hb : b = hyphen
  · simp only [if_pos hb]
    exact long_settled st rest
  · simp only [if_neg hb]
    exact short_settled st b rest

/-! ## Roots -/

def Waits (st : State) : Prop := ∃ s, st.pending = .setting s none

theorem not_waits_of_nothing (h : st.pending = .nothing) : ¬ st.Waits := by
  rintro ⟨s, hs⟩
  rw [h] at hs
  cases hs

/-- A root is pending together with others or alone. -/
theorem not_waits_of_root (h : st.root value = .ok st') : ¬ st'.Waits := by
  rintro ⟨s, hs⟩
  unfold root at h
  split at h
  · cases h
    cases hs
  · obtain ⟨st₀, -, h⟩ := bind_eq_ok_iff.mp h
    cases h
    cases hs

theorem settle_root (hwaits : ¬ st.Waits) (value : Argument) :
    (st.root value >>= settle) = st.settle >>= fun st₀ => st₀.accept (.root value) := by
  cases hpending : st.pending with
  | nothing =>
      have hsettle := settle_of_nothing hpending
      obtain ⟨args, given, pending⟩ := st
      obtain rfl : pending = .nothing := hpending
      cases hvalue : path? value <;>
        simp [root, settle, accept, hvalue, bind, Except.bind, pure, Except.pure, Except.map]
  | setting s value? =>
      cases value? with
      | none => exact absurd ⟨s, hpending⟩ hwaits
      | some text =>
          have hroot : st.root value = st.settle >>= fun st₀ => .ok { st₀ with pending := .roots [value] } := by
            rw [root, hpending]
            rfl
          rw [hroot]
          cases hsettle : st.settle with
          | error e => rfl
          | ok st₀ =>
              have hnothing := pending_of_settle hsettle
              obtain ⟨args, given, pending⟩ := st₀
              obtain rfl : pending = .nothing := hnothing
              cases hvalue : path? value <;>
                simp [settle, accept, hvalue, bind, Except.bind, pure, Except.pure, Except.map]
  | roots values =>
      rw [root, hpending]
      cases hvalues : values.mapM path? <;> cases hvalue : path? value <;>
        simp [settle, hpending, accept, List.mapM_append, hvalues, hvalue, bind, Except.bind, pure, Except.pure,
          Except.map]

theorem plain_eq_root (hwaits : ¬ st.Waits) (value : Argument) : st.plain value = st.root value := by
  rw [plain]
  split
  · next s hpending => exact absurd ⟨s, hpending⟩ hwaits
  · rfl

/-- A root is taken over at once or with what follows it. -/
theorem root_settled (hwaits : ¬ st.Waits) (value : Argument) {k k' : State → Except Stop State}
    (hk : ∀ st', ¬ Waits st' → Agrees Eq (k st') (st'.settle >>= k')) :
    Agrees Eq (st.root value >>= k) (st.settle >>= fun st₀ => st₀.accept (.root value) >>= k') := by
  have hsettle := settle_root hwaits value
  cases hroot : st.root value with
  | error e =>
      rw [hroot] at hsettle
      refine .of_eq ?_
      rw [← bind_assoc, ← hsettle]
      rfl
  | ok st' =>
      rw [hroot] at hsettle
      have hsettle : st'.settle = st.settle >>= fun st₀ => st₀.accept (.root value) := hsettle
      have hnext := hk st' (not_waits_of_root hroot)
      rw [hsettle, bind_assoc] at hnext
      exact hnext

/-! ## Arguments -/

/-- What is read from a state in which nothing is pending is read from every state that it comes from. -/
theorem settled_of_settled (k k' : State → Except Stop State)
    (hk : ∀ st', ¬ Waits st' → Agrees Eq (k st') (st'.settle >>= k')) (hwaits : ¬ st.Waits) :
    Agrees Eq (k st) (st.settle >>= k) := by
  refine (hk st hwaits).trans_eq ?_
  cases hsettle : st.settle with
  | error e => exact .same e
  | ok st₀ =>
      have hnext := hk st₀ (not_waits_of_nothing (pending_of_settle hsettle))
      rw [settle_settled hsettle] at hnext
      exact hnext.symm

/-- The state behind arguments, with all of them taken over. -/
def reading (st : State) (argv : List Argument) : Except Stop State := st.parse argv >>= settle

theorem reading_roots (st : State) (values : List Argument) :
    st.reading ([hyphen, hyphen] :: values) = values.foldlM root st >>= settle := by
  rw [reading, parse, if_pos rfl]

theorem reading_cons (h : arg ≠ [hyphen, hyphen]) (st : State) (argv : List Argument) :
    st.reading (arg :: argv) = st.argument arg >>= fun st => st.reading argv := by
  rw [reading, parse_cons h, bind_assoc]
  rfl

theorem roots_settled (values : List Argument) (hwaits : ¬ st.Waits) :
    Agrees Eq (values.foldlM root st >>= settle) (st.settle >>= fun st₀ => values.foldlM root st₀ >>= settle) := by
  induction values generalizing st with
  | nil =>
      refine .of_eq ?_
      show st.settle = st.settle >>= settle
      cases hsettle : st.settle with
      | error e => rfl
      | ok st₀ => exact (settle_settled hsettle).symm
  | cons value values ih =>
      refine settled_of_settled (fun st => (value :: values).foldlM root st >>= settle)
        (fun st => st.accept (.root value) >>= fun st => values.foldlM root st >>= settle)
        (fun st' hwaits' => ?_) hwaits
      simp only [List.foldlM_cons, bind_assoc]
      exact root_settled hwaits' value fun st'' hwaits'' => ih hwaits''

/-- Unless an option waits for its value, arguments are read as if what is pending had been taken over before. -/
theorem reading_settled (argv : List Argument) (hwaits : ¬ st.Waits) :
    Agrees Eq (st.reading argv) (st.settle >>= fun st₀ => st₀.reading argv) := by
  induction argv generalizing st with
  | nil => exact roots_settled [] hwaits
  | cons arg argv ih =>
      by_cases hend : arg = [hyphen, hyphen]
      · subst hend
        simp only [reading_roots]
        exact roots_settled argv hwaits
      · by_cases hlooks : Standalone arg
        · refine settled_of_settled (fun st => st.reading (arg :: argv))
            (fun st => st.accept (.root arg) >>= fun st => st.reading argv) (fun st' hwaits' => ?_) hwaits
          rw [reading_cons hend, argument_standalone hlooks, plain_eq_root hwaits']
          exact root_settled hwaits' arg fun st'' hwaits'' => ih hwaits''
        · simp only [reading_cons hend]
          rw [← bind_assoc]
          refine (argument_settled hlooks st).bind ?_
          rintro st' _ rfl
          exact .refl _

/-- An option that waits for its value waits in vain for what is none. -/
theorem fault_of_waits (hwaits : st.Waits) (h : ∀ arg ∈ argv.head?, ¬ Standalone arg) :
    ∃ e, st.reading argv = .error e ∧ e.IsFault := by
  obtain ⟨s, hpending⟩ := hwaits
  have hsettle : st.settle = .error .invalidValue := by rw [settle, hpending]
  cases argv with
  | nil => exact ⟨_, hsettle, by decide⟩
  | cons arg argv =>
      by_cases hend : arg = [hyphen, hyphen]
      · subst hend
        rw [reading_roots]
        cases argv with
        | nil => exact ⟨_, hsettle, by decide⟩
        | cons value values =>
            refine ⟨.invalidValue, ?_, by decide⟩
            rw [List.foldlM_cons, root, hpending, hsettle]
            rfl
      · have hread := argument_settled (h arg rfl) st
        rw [hsettle] at hread
        rw [reading_cons hend]
        generalize st.argument arg = x at hread ⊢
        cases hread with
        | same => exact ⟨_, rfl, by decide⟩
        | fault he _ => exact ⟨_, rfl, he⟩

/-- The arguments of a command line are those of the state behind it. -/
theorem ofArguments_eq (argv : List Argument) : Args.ofArguments argv = (start.reading argv).map State.args := by
  rw [Args.ofArguments, reading]
  cases start.parse argv with
  | error e => rfl
  | ok st => cases hsettle : st.settle <;> simp [hsettle, bind, Except.bind, pure, Except.pure, Except.map]

/-! ## Options that wait -/

theorem not_waits_of_settle (h : st.settle = .ok st₀) : ¬ st.Waits := by
  rintro ⟨s, hpending⟩
  rw [settle, hpending] at h
  cases h

theorem not_waits_of_flag {f : Flag} (h : st.flag f = .ok st') : ¬ st'.Waits := by
  cases hsettle : st.settle with
  | error e =>
      rw [flag, hsettle] at h
      cases h
  | ok st₀ =>
      rw [flag_eq hsettle] at h
      exact not_waits_of_settle (settle_accept hsettle h)

/-- An option waits for its value if none is attached to it. -/
theorem attached_of_waits {attached : Option Argument} (h : st.setting s attached = .ok st') (hwaits : st'.Waits) :
    attached = none := by
  cases hsettle : st.settle with
  | error e =>
      rw [setting, hsettle] at h
      cases h
  | ok st₀ =>
      cases attached with
      | none => rfl
      | some value =>
          rw [setting_attached hsettle] at h
          exact absurd hwaits (not_waits_of_settle (settle_accept hsettle h))

end State

end BuilderAudit.CommandLine
