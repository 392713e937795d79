import BuilderAudit.CommandLine.Parser
import BuilderAudit.Proofs.Text.Utf8

/-!
# What a command line says, one thing after the other

A command line says a list of things: options with their values, flags and roots. Each option is said once, a flag once
if it is set, and roots keep their order; `Args.SaidBy` puts this down.

* `Occurrence` : one thing that is said; `State.accept` takes it over at once;
* `Args.SaidBy` : the arguments that some occurrences say, of which there are no two (`saidBy_unique`);
* `accept_ok` : one occurrence is accepted if it goes on with what some arguments are said by;
* `foldlM_accept` : and so are all of them, and the arguments come out.
-/

namespace BuilderAudit.CommandLine

/-! ## Occurrences -/

/-- One thing that a command line says. -/
inductive Occurrence
  | setting (s : Setting) (value : Argument)
  | flag (f : Flag)
  | root (value : Argument)
  deriving DecidableEq, Repr

namespace Occurrence

/-- The value that is given to an option. -/
def value? (s : Setting) : Occurrence → Option Argument
  | setting s' value => if s' = s then some value else none
  | _ => none

def root? : Occurrence → Option Argument
  | root value => some value
  | _ => none

end Occurrence

namespace Args

/-- The value of an option as it stands in an argument. -/
def value? (a : Args) : Setting → Option Argument
  | .config => a.config.map Path.bytes
  | .pattern => a.pattern.map Argument.ofString
  | .marker => a.marker.map Argument.ofString
  | .destination => a.destination.map Path.bytes
  | .builderNamespace => a.builderNamespace.map Argument.ofString
  | .format => some (Argument.ofString a.format.name)
  | .outputFile => a.outputFile.map Path.bytes

/-- May a flag be said `n` times? -/
def Counts (a : Args) (n : Nat) : Flag → Prop
  | .legacyMarkerCheck => n = a.legacyMarkerCheck.toNat
  | .skipUnreadable => n = a.skipUnreadable.toNat
  | .verbose => a.verbose = min 255 n
  | .quiet => n = a.quiet.toNat
  | .help | .version => n = 0

/-- The arguments that some occurrences say. The format may be left out if it is text. -/
structure SaidBy (a : Args) (os : List Occurrence) : Prop where
  roots : os.filterMap Occurrence.root? = a.roots.map Path.bytes
  settings : ∀ s, os.filterMap (Occurrence.value? s) = (a.value? s).toList ∨
    s = .format ∧ a.format = .text ∧ os.filterMap (Occurrence.value? s) = []
  flags : ∀ f, a.Counts (os.count (.flag f)) f

structure HasPaths (a : Args) : Prop where
  roots : ∀ root ∈ a.roots, root.bytes ≠ []
  options : ∀ p : Path, some p ∈ [a.config, a.destination, a.outputFile] → p.bytes ≠ []

end Args

/-- Takes over one thing at once. -/
def State.accept (st : State) : Occurrence → Except Stop State
  | .setting s value => st.take s value
  | .flag f => st.flag f
  | .root value => (path? value).map fun p => { st with args := { st.args with roots := st.args.roots ++ [p] } }

/-! ## Values -/

theorem ofString_injective : Function.Injective Argument.ofString := by
  intro s t h
  have hdecode : Utf8.decode? (Argument.ofString t) = some t.toList := Utf8.decode?_eq_some_iff.mpr rfl
  rw [Utf8.decode?_eq_some_iff.mpr h, Option.some.injEq] at hdecode
  exact String.toList_inj.mp hdecode

theorem bytes_injective : Function.Injective Path.bytes := by
  rintro ⟨bytes⟩ ⟨bytes'⟩ rfl
  rfl

theorem toNat_injective : Function.Injective Bool.toNat := by decide

theorem path?_bytes {p : Path} (h : p.bytes ≠ []) : path? p.bytes = .ok p := by
  rw [path?, if_neg (by simpa using h)]

theorem text?_ofString (s : String) : text? (Argument.ofString s) = .ok s := by
  rw [text?, Argument.ofString, Utf8.decode?_eq_some_iff.mpr rfl]
  exact congrArg Except.ok String.ofList_toList

namespace Args

variable {a b c : Args} {s : Setting} {value : Argument}

theorem format_eq_of_value? (h : a.value? .format = b.value? .format) : a.format = b.format := by
  have hname := ofString_injective (Option.some.inj h)
  cases ha : a.format <;> cases hb : b.format <;> rw [ha, hb] at hname <;> first | rfl | exact absurd hname (by decide)

/-- Some occurrences say no two different arguments. -/
theorem saidBy_unique {os : List Occurrence} (ha : a.SaidBy os) (hb : b.SaidBy os) : a = b := by
  have hroots : a.roots = b.roots := List.map_injective_iff.mpr bytes_injective (ha.roots.symm.trans hb.roots)
  have hvalue : ∀ s, a.value? s = b.value? s := by
    intro s
    rcases ha.settings s with hs | ⟨hformat, htext, hs⟩ <;> rcases hb.settings s with hs' | ⟨hformat', htext', hs'⟩
    · rw [← Option.head?_toList (o := a.value? s), ← hs, hs', Option.head?_toList]
    · subst hformat'
      cases hs.symm.trans hs'
    · subst hformat
      cases hs'.symm.trans hs
    · rw [hformat, value?, value?, htext, htext']
  have hlegacy : a.legacyMarkerCheck.toNat = b.legacyMarkerCheck.toNat :=
    (ha.flags .legacyMarkerCheck).symm.trans (hb.flags .legacyMarkerCheck)
  have hskip : a.skipUnreadable.toNat = b.skipUnreadable.toNat :=
    (ha.flags .skipUnreadable).symm.trans (hb.flags .skipUnreadable)
  have hverbose : a.verbose = b.verbose := (ha.flags .verbose).trans (hb.flags .verbose).symm
  have hquiet : a.quiet.toNat = b.quiet.toNat := (ha.flags .quiet).symm.trans (hb.flags .quiet)
  cases a
  cases b
  rw [mk.injEq]
  exact ⟨hroots, Option.map_injective bytes_injective (hvalue .config),
    Option.map_injective ofString_injective (hvalue .pattern), Option.map_injective ofString_injective (hvalue .marker),
    Option.map_injective bytes_injective (hvalue .destination),
    Option.map_injective ofString_injective (hvalue .builderNamespace), format_eq_of_value? (hvalue .format),
    Option.map_injective bytes_injective (hvalue .outputFile), toNat_injective hlegacy, toNat_injective hskip, hverbose,
    toNat_injective hquiet⟩

/-! ## One occurrence -/

/-- What an option says is taken over, and nothing else changes. -/
theorem withSetting_ok (ha : a.HasPaths) (hvalue : a.value? s = some value) (b : Args) :
    ∃ c, b.withSetting value s = .ok c ∧ c.roots = b.roots ∧ c.value? s = some value ∧
      (∀ s' ≠ s, c.value? s' = b.value? s') ∧ ∀ f n, b.Counts n f → c.Counts n f := by
  cases s with
  | config | destination | outputFile =>
      obtain ⟨p, hp, rfl⟩ := Option.map_eq_some_iff.mp hvalue
      rw [withSetting, path?_bytes (ha.options p (by simp [hp]))]
      refine ⟨_, rfl, rfl, rfl, fun s' hs' => ?_, fun _ _ h => h⟩
      cases s' <;> first | rfl | exact absurd rfl hs'
  | pattern | marker | builderNamespace =>
      obtain ⟨text, -, rfl⟩ := Option.map_eq_some_iff.mp hvalue
      rw [withSetting, text?_ofString]
      refine ⟨_, rfl, rfl, rfl, fun s' hs' => ?_, fun _ _ h => h⟩
      cases s' <;> first | rfl | exact absurd rfl hs'
  | format =>
      have hfind : ∀ f : ReportFormat,
          [ReportFormat.text, .json].find? (fun g => Argument.ofString g.name == Argument.ofString f.name) =
            some f := by
        intro f
        cases f <;> decide
      obtain rfl := Option.some.inj hvalue
      rw [withSetting, hfind]
      refine ⟨_, rfl, rfl, rfl, fun s' hs' => ?_, fun _ _ h => h⟩
      cases s' <;> first | rfl | exact absurd rfl hs'

/-- What comes of one thing more. -/
theorem SaidBy.snoc {done : List Occurrence} {o : Occurrence} (h : b.SaidBy done)
    (hroots : c.roots.map Path.bytes = b.roots.map Path.bytes ++ o.root?.toList)
    (hsettings : ∀ s value, o.value? s = some value → c.value? s = some value ∧
      done.filterMap (Occurrence.value? s) = [])
    (hothers : ∀ s, o.value? s = none → c.value? s = b.value? s)
    (hflags : ∀ f n, b.Counts n f → c.Counts (n + if o = .flag f then 1 else 0) f) : c.SaidBy (done ++ [o]) where
  roots := by
    rw [List.filterMap_append, h.roots, hroots]
    cases o <;> rfl
  settings s := by
    rw [List.filterMap_append]
    cases ho : o.value? s with
    | none =>
        rw [hothers s ho, List.filterMap_cons_none ho, List.filterMap_nil, List.append_nil]
        refine (h.settings s).imp_right ?_
        rintro ⟨rfl, htext, hnone⟩
        exact ⟨rfl, (format_eq_of_value? (hothers .format ho)).trans htext, hnone⟩
    | some value =>
        obtain ⟨hvalue, hdone⟩ := hsettings s value ho
        rw [hvalue, hdone, List.filterMap_cons_some ho]
        exact Or.inl rfl
  flags f := by
    rw [List.count_append, List.count_singleton]
    simpa using hflags f _ (h.flags f)

/-- The arguments with a flag said once more. -/
def raise (a : Args) : Flag → Args
  | .legacyMarkerCheck => { a with legacyMarkerCheck := true }
  | .skipUnreadable => { a with skipUnreadable := true }
  | .verbose => { a with verbose := min 255 (a.verbose + 1) }
  | .quiet => { a with quiet := true }
  | .help | .version => a

theorem roots_raise (b : Args) (f : Flag) : (b.raise f).roots = b.roots := by cases f <;> rfl

theorem value?_raise (b : Args) (f : Flag) (s : Setting) : (b.raise f).value? s = b.value? s := by
  cases f <;> cases s <;> rfl

section Flags

variable {f : Flag} {n m : Nat}

/-- A flag that may be said only once more has not been set. -/
theorem eq_false_of_counts {x y : Bool} (hx : n + (m + 1) = x.toNat) (hy : n = y.toNat) : y = false := by
  have := x.toNat_le
  exact Bool.toNat_eq_zero.mp (by omega)

theorem counts_raise (ha : a.Counts (n + (m + 1)) f) (hn : b.Counts n f) {f' : Flag} {k : Nat} (hk : b.Counts k f') :
    (b.raise f).Counts (k + if f = f' then 1 else 0) f' := by
  by_cases hf : f = f'
  · subst hf
    rw [if_pos rfl]
    cases f with
    | legacyMarkerCheck | skipUnreadable | quiet =>
        exact congrArg (· + 1) (hk.trans (congrArg Bool.toNat (eq_false_of_counts ha hn)))
    | verbose =>
        have hk : b.verbose = min 255 k := hk
        show min 255 (b.verbose + 1) = min 255 (k + 1)
        omega
    | help => cases ha
    | version => cases ha
  · rw [if_neg hf, Nat.add_zero]
    cases f <;> cases f' <;> first | exact hk | exact absurd rfl hf

end Flags

end Args

/-! ## Many occurrences -/

section Runs

variable {a : Args} {done rest : List Occurrence} {o : Occurrence} {st : State}

/-- What has been taken over is what some occurrences say. -/
structure State.Holds (st : State) (done : List Occurrence) : Prop where
  pending : st.pending = .nothing
  given : ∀ s ∈ st.given, done.filterMap (Occurrence.value? s) ≠ []
  args : st.args.SaidBy done

theorem settle_of_nothing (h : st.pending = .nothing) : st.settle = .ok st := by
  rw [State.settle, h]

/-- An option that is said is said once, with the right value. -/
theorem value?_of_saidBy {s : Setting} {value : Argument} (ha : a.SaidBy (done ++ .setting s value :: rest)) :
    done.filterMap (Occurrence.value? s) = [] ∧ a.value? s = some value := by
  have hsplit : (done ++ .setting s value :: rest).filterMap (Occurrence.value? s) =
      done.filterMap (Occurrence.value? s) ++ value :: rest.filterMap (Occurrence.value? s) := by
    rw [List.filterMap_append, List.filterMap_cons_some (by rw [Occurrence.value?, if_pos rfl])]
  rcases ha.settings s with hs | ⟨-, -, hs⟩
  · rw [hsplit] at hs
    cases hvalue : a.value? s with
    | none =>
        rw [hvalue] at hs
        simp at hs
    | some value' =>
        rw [hvalue, Option.toList_some, List.append_eq_singleton_iff] at hs
        rcases hs with ⟨hdone, hvalues⟩ | ⟨-, hvalues⟩
        · exact ⟨hdone, by rw [(List.cons.inj hvalues).1]⟩
        · cases hvalues
  · rw [hsplit] at hs
    simp at hs

theorem accept_setting {s : Setting} {value : Argument} (hst : st.Holds done) (ha : a.HasPaths)
    (hsaid : a.SaidBy (done ++ .setting s value :: rest)) :
    ∃ st', st.accept (.setting s value) = .ok st' ∧ st'.Holds (done ++ [.setting s value]) := by
  obtain ⟨hdone, hvalue⟩ := value?_of_saidBy hsaid
  obtain ⟨c, hc, hroots, hset, hothers, hflags⟩ := Args.withSetting_ok ha hvalue st.args
  have hgiven : s ∉ st.given := fun hmem => hst.given s hmem hdone
  have hself : Occurrence.value? s (.setting s value) = some value := if_pos rfl
  refine ⟨{ st with args := c, given := s :: st.given }, ?_, hst.pending, List.forall_mem_cons.mpr ⟨?_, ?_⟩, ?_⟩
  · rw [State.accept, State.take, if_neg hgiven, hc]
    rfl
  · rw [List.filterMap_append, List.filterMap_cons_some hself]
    simp
  · intro s' hs'
    rw [List.filterMap_append, ne_eq, List.append_eq_nil_iff, not_and_or]
    exact Or.inl (hst.given s' hs')
  · refine hst.args.snoc ?_ (fun s' value' ho => ?_) (fun s' ho => hothers s' ?_) fun f n hn => hflags f n hn
    · rw [hroots]
      exact (List.append_nil _).symm
    · rw [Occurrence.value?, Option.ite_none_right_eq_some] at ho
      obtain ⟨rfl, ho⟩ := ho
      exact ⟨hset.trans ho, hdone⟩
    · rintro rfl
      rw [hself] at ho
      cases ho

/-- A flag is not refused if there are arguments that say it at least once more. -/
theorem flag_ok {f : Flag} {n m : Nat} (hst : st.pending = .nothing) (ha : a.Counts (n + (m + 1)) f)
    (hn : st.args.Counts n f) : st.flag f = .ok { st with args := st.args.raise f } := by
  have hsettle := settle_of_nothing hst
  cases f with
  | legacyMarkerCheck | skipUnreadable | quiet =>
      have hfalse := Args.eq_false_of_counts ha hn
      simp only [State.flag, hsettle, bind, Except.bind, hfalse]
      rfl
  | verbose =>
      simp only [State.flag, hsettle, bind, Except.bind]
      rfl
  | help => cases ha
  | version => cases ha

theorem accept_flag {f : Flag} (hst : st.Holds done) (hsaid : a.SaidBy (done ++ .flag f :: rest)) :
    ∃ st', st.accept (.flag f) = .ok st' ∧ st'.Holds (done ++ [.flag f]) := by
  have hcount := hsaid.flags f
  rw [List.count_append, List.count_cons_self] at hcount
  refine ⟨{ st with args := st.args.raise f }, flag_ok hst.pending hcount (hst.args.flags f), hst.pending,
    fun s hs => ?_, ?_⟩
  · rw [List.filterMap_append, ne_eq, List.append_eq_nil_iff, not_and_or]
    exact Or.inl (hst.given s hs)
  · refine hst.args.snoc ?_ nofun (fun s _ => Args.value?_raise st.args f s) fun f' n hn => ?_
    · rw [Args.roots_raise]
      exact (List.append_nil _).symm
    · simpa only [Occurrence.flag.injEq] using Args.counts_raise hcount (hst.args.flags f) hn

theorem accept_root {value : Argument} (hst : st.Holds done) (ha : a.HasPaths)
    (hsaid : a.SaidBy (done ++ .root value :: rest)) :
    ∃ st', st.accept (.root value) = .ok st' ∧ st'.Holds (done ++ [.root value]) := by
  have hself : (Occurrence.root value).root? = some value := rfl
  have hroots := hsaid.roots
  rw [List.filterMap_append, List.filterMap_cons_some hself] at hroots
  obtain ⟨p, hp, rfl⟩ : ∃ p ∈ a.roots, p.bytes = value := by
    rw [← List.mem_map, ← hroots]
    simp
  refine ⟨{ st with args := { st.args with roots := st.args.roots ++ [p] } }, ?_, hst.pending, fun s hs => ?_, ?_⟩
  · rw [State.accept, path?_bytes (ha.roots p hp)]
    rfl
  · rw [List.filterMap_append, ne_eq, List.append_eq_nil_iff, not_and_or]
    exact Or.inl (hst.given s hs)
  · exact hst.args.snoc List.map_append nofun (fun s _ => by cases s <;> rfl) fun _ _ h => h

/-- What goes on with what some arguments are said by is accepted. -/
theorem accept_ok (hst : st.Holds done) (ha : a.HasPaths) (hsaid : a.SaidBy (done ++ o :: rest)) :
    ∃ st', st.accept o = .ok st' ∧ st'.Holds (done ++ [o]) := by
  cases o with
  | setting s value => exact accept_setting hst ha hsaid
  | flag f => exact accept_flag hst hsaid
  | root value => exact accept_root hst ha hsaid

/-- Occurrences are all accepted, and the arguments that they say come out. -/
theorem foldlM_accept {os : List Occurrence} (ha : a.HasPaths) (hsaid : a.SaidBy os) :
    ∃ st, os.foldlM State.accept State.start = .ok st ∧ st.pending = .nothing ∧ st.args = a := by
  suffices hrun : ∀ (rest done : List Occurrence) (st : State), st.Holds done → a.SaidBy (done ++ rest) →
      ∃ st', rest.foldlM State.accept st = .ok st' ∧ st'.Holds (done ++ rest) by
    have hempty : Args.empty.SaidBy [] := ⟨rfl, fun s => by cases s <;> simp [Args.empty, Args.value?], fun f => by
      cases f <;> rfl⟩
    have hstart : State.start.Holds [] := ⟨rfl, nofun, hempty⟩
    obtain ⟨st, hst, hholds⟩ := hrun os [] State.start hstart hsaid
    exact ⟨st, hst, hholds.pending, Args.saidBy_unique hholds.args hsaid⟩
  intro rest
  induction rest with
  | nil =>
      intro done st hst _
      exact ⟨st, rfl, by rwa [List.append_nil]⟩
  | cons o rest ih =>
      intro done st hst hsaid
      obtain ⟨st', hst', hholds⟩ := accept_ok hst ha hsaid
      obtain ⟨st'', hrest, hholds'⟩ := ih (done ++ [o]) st' hholds (by rwa [List.append_assoc])
      refine ⟨st'', ?_, by rwa [List.append_assoc] at hholds'⟩
      rw [List.foldlM_cons, hst']
      exact hrest

end Runs

end BuilderAudit.CommandLine
