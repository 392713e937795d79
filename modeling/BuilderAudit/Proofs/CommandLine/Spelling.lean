import BuilderAudit.Proofs.CommandLine.Occurrence

/-!
# How a command line is spelled

The same things can be said in many ways: options by their names or by their letters, with their values attached or
behind them, letters of flags one by one or together, and roots anywhere, behind two hyphens also those that look like
options.

* `Item` : the ways to say one thing, or several with one group of letters;
* `Spells` : the ways to say all;
* `State.flag_eq`, `State.setting_attached`, `State.setting_waiting` : options are read behind what is pending;
* `State.argument_name`, `State.argument_nameWith`, `State.argument_letters` : what an argument is read for by its
  looks.
-/

namespace BuilderAudit.CommandLine

/-! ## Spellings -/

def Switch.long (s : Switch) : Argument := hyphen :: hyphen :: Argument.ofString s.longName

/-- The argument does not look like an option: it does not start with a hyphen, or is nothing but one. -/
def Standalone (arg : Argument) : Prop := arg.head? = some hyphen → arg = [hyphen]

theorem Standalone.ne_hyphens {arg : Argument} (h : Standalone arg) : arg ≠ [hyphen, hyphen] := by
  rintro rfl
  cases h rfl

/-- What stands behind the letter of an option: the value behind `=`, or the value alone, if it holds something and does
not start with `=`. -/
inductive Attached (value : Argument) : Argument → Prop
  | equals : Attached value (equals :: value)
  | bare (hne : value ≠ []) (hequals : value.head? ≠ some CommandLine.equals) : Attached value value

def Letters (fs : List Flag) (letters : Argument) : Prop :=
  List.Forall₂ (fun f b => (Switch.flag f).byte? = some b) fs letters

/-- The ways to say one thing, or several with one group of letters. -/
inductive Item : List Occurrence → List Argument → Prop
  | root {value : Argument} (h : Standalone value) : Item [.root value] [value]
  | name (f : Flag) : Item [.flag f] [(Switch.flag f).long]
  | nameWith (s : Setting) (value : Argument) :
      Item [.setting s value] [(Switch.setting s).long ++ equals :: value]
  | nameThen (s : Setting) {value : Argument} (h : Standalone value) :
      Item [.setting s value] [(Switch.setting s).long, value]
  | letters {fs : List Flag} {letters : Argument} (hne : fs ≠ []) (h : Letters fs letters) :
      Item (fs.map .flag) [hyphen :: letters]
  | lettersWith {fs : List Flag} {letters value text : Argument} {s : Setting} {b : UInt8} (h : Letters fs letters)
      (hb : (Switch.setting s).byte? = some b) (ht : Attached value text) :
      Item (fs.map .flag ++ [.setting s value]) [hyphen :: (letters ++ b :: text)]
  | lettersThen {fs : List Flag} {letters value : Argument} {s : Setting} {b : UInt8} (h : Letters fs letters)
      (hb : (Switch.setting s).byte? = some b) (hvalue : Standalone value) :
      Item (fs.map .flag ++ [.setting s value]) [hyphen :: (letters ++ [b]), value]

/-- The ways to say all. Behind two hyphens there are only roots. -/
inductive Spells : List Occurrence → List Argument → Prop
  | nil : Spells [] []
  | cons {os more : List Occurrence} {args argv : List Argument} (h : Item os args) (hmore : Spells more argv) :
      Spells (os ++ more) (args ++ argv)
  | roots (values : List Argument) : Spells (values.map .root) ([hyphen, hyphen] :: values)

/-! ## Names and letters -/

namespace Switch

theorem mem_all (s : Switch) : s ∈ all := by
  cases s with
  | setting s => cases s <;> decide
  | flag f => cases f <;> decide

theorem ofLongName?_longName (s : Switch) : ofLongName? (Argument.ofString s.longName) = some s := by
  have hall : ∀ s ∈ all, ofLongName? (Argument.ofString s.longName) = some s := by decide +kernel
  exact hall s s.mem_all

theorem long_append_ne (s : Switch) (more : Argument) : s.long ++ more ≠ [hyphen, hyphen] := by
  have hall : ∀ s ∈ all, Argument.ofString s.longName ≠ [] := by decide
  intro heq
  exact hall s s.mem_all (List.append_eq_nil_iff.mp (List.cons.inj (List.cons.inj heq).2).2).1

theorem long_ne (s : Switch) : s.long ≠ [hyphen, hyphen] := by
  have hne := s.long_append_ne []
  rwa [List.append_nil] at hne

theorem ne_equals_of_mem_longName (s : Switch) : ∀ b ∈ Argument.ofString s.longName, (b != equals) = true := by
  have hall : ∀ s ∈ all, (Argument.ofString s.longName).all (· != equals) = true := by decide +kernel
  exact List.all_eq_true.mp (hall s s.mem_all)

theorem ofByte?_of_byte? {s : Switch} {b : UInt8} (h : s.byte? = some b) : ofByte? b = some s ∧ b ≠ hyphen := by
  have hall : ∀ s ∈ all, ∀ b ∈ s.byte?, ofByte? b = some s ∧ b ≠ hyphen := by decide +kernel
  exact hall s s.mem_all b h

end Switch

/-! ## Reading one argument -/

namespace State

variable {st st₀ st₁ : State} {value arg name : Argument} {argv : List Argument}

theorem pending_of_take {s : Setting} (h : st.take s value = .ok st₁) : st₁.pending = st.pending := by
  unfold take at h
  split at h
  · cases h
  · obtain ⟨args, -, rfl⟩ := map_eq_ok_iff.mp h
    rfl

/-- Nothing is pending when it has been taken over. -/
theorem pending_of_settle (h : st.settle = .ok st₀) : st₀.pending = .nothing := by
  unfold settle at h
  split at h
  · next hpending =>
    cases h
    exact hpending
  · cases h
  · exact pending_of_take h
  · obtain ⟨paths, -, h⟩ := bind_eq_ok_iff.mp h
    cases h
    rfl

theorem settle_settled (h : st.settle = .ok st₀) : st₀.settle = .ok st₀ := settle_of_nothing (pending_of_settle h)

section Settled

variable (h : st.settle = .ok st₀)
include h

/-- A flag is read as if what was pending had been taken over before. -/
theorem flag_eq (f : Flag) : st.flag f = st₀.accept (.flag f) := by
  rw [accept, flag, flag, h, settle_settled h]

theorem setting_attached (s : Setting) (value : Argument) :
    st.setting s (some value) = st₀.accept (.setting s value) := by
  simp only [setting, h, accept, bind, Except.bind]

theorem setting_waiting (s : Setting) : st.setting s none = .ok { st₀ with pending := .setting s none } := by
  simp only [setting, h, bind, Except.bind, pure, Except.pure]

/-- What is accepted leaves nothing pending. -/
theorem settle_accept {o : Occurrence} (ho : st₀.accept o = .ok st₁) : st₁.settle = .ok st₁ := by
  have hpending := pending_of_settle h
  refine settle_of_nothing ?_
  cases o with
  | setting s value => exact (pending_of_take ho).trans hpending
  | flag f =>
      simp only [accept, flag, settle_settled h, bind, Except.bind] at ho
      cases f with
      | legacyMarkerCheck | skipUnreadable | quiet =>
          simp only at ho
          split at ho
          · cases ho
          · cases ho
            exact hpending
      | verbose =>
          cases ho
          exact hpending
      | help => cases ho
      | version => cases ho
  | root value =>
      obtain ⟨p, -, rfl⟩ := map_eq_ok_iff.mp ho
      exact hpending

/-- A value that is waited for is taken over with its option. -/
theorem settle_waiting (s : Setting) (value : Argument) :
    settle { st₀ with pending := .setting s (some value) } = st₀.accept (.setting s value) := by
  have hpending := pending_of_settle h
  obtain ⟨args, given, pending⟩ := st₀
  obtain rfl : pending = .nothing := hpending
  rfl

/-- A root is read for a root if nothing waits for a value. -/
theorem plain_eq (value : Argument) : st.plain value = st.root value := by
  rw [plain]
  split
  · next hpending =>
    rw [settle, hpending] at h
    cases h
  · rfl

end Settled

/-! ### By their looks -/

theorem argument_standalone (h : Standalone arg) (st : State) : st.argument arg = st.plain arg := by
  unfold argument
  split
  · next a b rest =>
    split
    · next ha =>
      subst ha
      cases h rfl
    · rfl
  · rfl

theorem argument_short {b : UInt8} (h : b ≠ hyphen) (st : State) (rest : Argument) :
    st.argument (hyphen :: b :: rest) = st.short (b :: rest) := by
  rw [argument]
  simp only [if_pos, if_neg h]

/-- An argument that is not two hyphens is read by itself. -/
theorem parse_cons (h : arg ≠ [hyphen, hyphen]) (st : State) (argv : List Argument) :
    st.parse (arg :: argv) = st.argument arg >>= fun st => st.parse argv := by
  rw [parse, if_neg h]

theorem argument_long (st : State) (s : Switch) (more : Argument) :
    st.argument (s.long ++ more) = st.long (Argument.ofString s.longName ++ more) := by
  rw [Switch.long, List.cons_append, List.cons_append, argument]
  simp only [if_pos]

theorem argument_name (st : State) (s : Switch) :
    st.argument s.long = match s with
      | .setting s => st.setting s none
      | .flag f => st.flag f := by
  have hargument := argument_long st s []
  have hplain := s.ne_equals_of_mem_longName
  rw [List.append_nil, List.append_nil] at hargument
  rw [hargument, long, List.takeWhile_eq_self_iff.mpr hplain, List.dropWhile_eq_nil_iff.mpr hplain,
    s.ofLongName?_longName]
  cases s <;> rfl

theorem argument_nameWith (st : State) (s : Setting) (value : Argument) :
    st.argument ((Switch.setting s).long ++ equals :: value) = st.setting s (some value) := by
  have hplain := (Switch.setting s).ne_equals_of_mem_longName
  have htake : (equals :: value).takeWhile (· != equals) = [] := rfl
  have hdrop : (equals :: value).dropWhile (· != equals) = equals :: value := rfl
  rw [argument_long, long, List.takeWhile_append_of_pos hplain, List.dropWhile_append_of_pos hplain, htake, hdrop,
    List.append_nil, (Switch.setting s).ofLongName?_longName]

/-! ### Letters -/

section Letters

variable {fs : List Flag} {letters text : Argument} {s : Setting} {b : UInt8}

theorem short_setting (hb : (Switch.setting s).byte? = some b) (ht : Attached value text) (st : State) :
    st.short (b :: text) = st.setting s (some value) := by
  rw [short, (Switch.ofByte?_of_byte? hb).1]
  cases ht with
  | equals => simp only [if_pos]
  | bare hne hequals =>
      obtain ⟨c, text, rfl⟩ := List.exists_cons_of_ne_nil hne
      have hc : c ≠ equals := fun heq => hequals (congrArg some heq)
      simp only [if_neg hc]

theorem short_waiting (hb : (Switch.setting s).byte? = some b) (st : State) : st.short [b] = st.setting s none := by
  rw [short, (Switch.ofByte?_of_byte? hb).1]

/-- A group of letters is read as such, with what stands behind them. -/
theorem argument_letters (hl : Letters fs letters) (tail : Argument)
    (htail : fs = [] → ∃ c rest, tail = c :: rest ∧ c ≠ hyphen) (st : State) :
    st.argument (hyphen :: (letters ++ tail)) = st.short (letters ++ tail) ∧
      hyphen :: (letters ++ tail) ≠ [hyphen, hyphen] := by
  obtain ⟨c, rest, hall, hc⟩ : ∃ c rest, letters ++ tail = c :: rest ∧ c ≠ hyphen := by
    cases hl with
    | nil => exact htail rfl
    | cons hb hl => exact ⟨_, _, rfl, (Switch.ofByte?_of_byte? hb).2⟩
  rw [hall]
  exact ⟨argument_short hc st rest, fun heq => hc (List.cons.inj (List.cons.inj heq).2).1⟩

end Letters

end State

end BuilderAudit.CommandLine
