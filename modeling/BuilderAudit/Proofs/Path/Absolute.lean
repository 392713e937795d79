import BuilderAudit.Proofs.Path
import Mathlib.Data.List.Basic

/-!
# The text of an absolute form

An absolute form is spelled in one way: a slash, or two if exactly two opened the path, the names between single
slashes, and a slash at the end if the path had one.

* `Path.spell` : that spelling, from the names;
* `absolute_eq_spell` : every absolute form is spelled so, from the names of the current directory and the components of
  the path;
* `absolute_spell` : the spelling is its own absolute form;
* `EqUpToSlash` : paths that differ by a slash at the end, with the same names (`EqUpToSlash.steps_eq`) and the same
  paths below (`EqUpToSlash.join_eq`).
-/

namespace BuilderAudit.Path

variable {p q : Path} {names : List Name}

def opening (double : Bool) : Path := if double then ⟨[slash, slash]⟩ else ⟨[slash]⟩

/-- An absolute path in one spelling: slashes, some names between single slashes, and perhaps a slash behind the
last. -/
def spell (double : Bool) (names : List Name) (ending : Bool) : Path :=
  ⟨(opening double).bytes ++ [slash].intercalate names ++ if ending && !names.isEmpty then [slash] else []⟩

theorem endsWithSlash_opening (double : Bool) : (opening double).endsWithSlash = true := by
  cases double <;> rfl

@[simp] theorem components_opening (double : Bool) : (opening double).components = [] := by
  cases double <;> rfl

/-! ## The bytes of joined names -/

theorem intercalate_cons (name : Name) (names : List Name) :
    [slash].intercalate (name :: names) = name ++ names.flatMap (slash :: ·) := by
  induction names generalizing name with
  | nil => simp
  | cons next names ih =>
      rw [List.intercalate_cons_cons, ih, List.flatMap_cons, List.append_assoc, List.singleton_append, List.cons_append]

theorem bytes_join_of_endsWithSlash (h : p.endsWithSlash = true) (name : Name) :
    (p.join name).bytes = p.bytes ++ name := by
  simp [join, h]

theorem bytes_join_of_not_endsWithSlash (hne : p.bytes ≠ []) (h : p.endsWithSlash = false) (name : Name) :
    (p.join name).bytes = p.bytes ++ slash :: name := by
  simp [join, isEmpty, hne, h]

/-- Behind a name, each further name brings its slash. -/
theorem bytes_joinAll (hne : p.bytes ≠ []) (hp : p.endsWithSlash = false) (h : ∀ name ∈ names, Component name) :
    (p.joinAll names).bytes = p.bytes ++ names.flatMap (slash :: ·) := by
  induction names generalizing p with
  | nil => simp
  | cons name names ih =>
      rw [List.forall_mem_cons] at h
      rw [joinAll_cons, ih (bytes_join_ne_nil p h.1.nonempty) (endsWithSlash_join p h.1.nonempty h.1.slash_notMem) h.2,
        bytes_join_of_not_endsWithSlash hne hp, List.flatMap_cons, List.append_assoc]

theorem bytes_joinAll_opening (double : Bool) (h : ∀ name ∈ names, Component name) :
    ((opening double).joinAll names).bytes = (opening double).bytes ++ [slash].intercalate names := by
  cases names with
  | nil => simp
  | cons name names =>
      rw [List.forall_mem_cons] at h
      rw [joinAll_cons,
        bytes_joinAll (bytes_join_ne_nil _ h.1.nonempty) (endsWithSlash_join _ h.1.nonempty h.1.slash_notMem) h.2,
        bytes_join_of_endsWithSlash (endsWithSlash_opening double), intercalate_cons, List.append_assoc]

theorem endsWithSlash_joinAll_opening (double : Bool) (h : ∀ name ∈ names, Component name) :
    ((opening double).joinAll names).endsWithSlash = names.isEmpty := by
  rcases List.eq_nil_or_concat names with rfl | ⟨front, last, rfl⟩
  · exact endsWithSlash_opening double
  · rw [List.concat_eq_append] at h ⊢
    have hlast := h last (by simp)
    rw [joinAll_concat, endsWithSlash_join _ hlast.nonempty hlast.slash_notMem]
    simp

/-- The spelling is that of the names joined below the slashes that open it. -/
theorem spell_eq (double : Bool) (h : ∀ name ∈ names, Component name) (ending : Bool) :
    spell double names ending =
      if ending && !((opening double).joinAll names).endsWithSlash then
        ⟨((opening double).joinAll names).bytes ++ [slash]⟩
      else (opening double).joinAll names := by
  rw [endsWithSlash_joinAll_opening double h, spell, ← bytes_joinAll_opening double h]
  split <;> simp

/-! ## Absolute forms are spelled so -/

theorem hasDoubleSlash_of_relative (h : p.isAbsolute = false) : p.hasDoubleSlash = false := by
  obtain ⟨bytes⟩ := p
  cases bytes with
  | nil => rfl
  | cons a bytes =>
      have ha : a ≠ slash := by simpa [isAbsolute] using h
      cases bytes with
      | nil => rfl
      | cons b bytes => simp [hasDoubleSlash, ha]

def absoluteNames (p : Path) (cwd : List Name) : List Name := (if p.isAbsolute then [] else cwd) ++ p.components

theorem forall_mem_absoluteNames {P : Name → Prop} {cwd : List Name} (hcwd : ∀ name ∈ cwd, P name)
    (hp : ∀ name ∈ p.components, P name) : ∀ name ∈ p.absoluteNames cwd, P name := by
  intro name hname
  rcases List.mem_append.mp hname with h | h
  · split at h
    · cases h
    · exact hcwd name h
  · exact hp name h

theorem absoluteNames_component {cwd : List Name} (hcwd : ∀ name ∈ cwd, Component name) :
    ∀ name ∈ p.absoluteNames cwd, Component name :=
  forall_mem_absoluteNames hcwd fun _ => mem_components

theorem absoluteStart_joinAll (p : Path) (cwd : List Name) :
    (p.absoluteStart (ofNames cwd)).joinAll p.components =
    (opening p.hasDoubleSlash).joinAll (p.absoluteNames cwd) := by
  unfold absoluteStart absoluteNames
  cases h : p.isAbsolute with
  | true => rfl
  | false =>
      rw [hasDoubleSlash_of_relative h]
      exact (List.foldl_append ..).symm

/-- An absolute form is spelled from its names. -/
theorem absolute_eq_spell (p : Path) {cwd : List Name} (hcwd : ∀ name ∈ cwd, Component name) :
    p.absolute (ofNames cwd) = spell p.hasDoubleSlash (p.absoluteNames cwd) p.endsWithSlash := by
  rw [spell_eq _ (absoluteNames_component hcwd), absolute_eq, absoluteStart_joinAll]

theorem nul_notMem_joinAll (hp : 0 ∉ p.bytes) (h : ∀ name ∈ names, 0 ∉ name) : 0 ∉ (p.joinAll names).bytes := by
  induction names generalizing p with
  | nil => exact hp
  | cons name names ih =>
      rw [List.forall_mem_cons] at h
      exact ih (nul_notMem_join hp h.1) h.2

theorem nul_notMem_absolute (hp : 0 ∉ p.bytes) {cwd : List Name} (hcwd : ∀ name ∈ cwd, 0 ∉ name) :
    0 ∉ (p.absolute (ofNames cwd)).bytes := by
  have hnames : ∀ name ∈ p.absoluteNames cwd, 0 ∉ name := forall_mem_absoluteNames hcwd fun name h => by
    rw [components_eq, List.mem_filter] at h
    exact (piece_of_mem_steps hp name h.1).nul_notMem
  have hopening : 0 ∉ (opening p.hasDoubleSlash).bytes := by
    cases p.hasDoubleSlash <;> decide
  have hjoined := nul_notMem_joinAll hopening hnames
  rw [← absoluteStart_joinAll] at hjoined
  rcases absolute_cases p (ofNames cwd) with h | h
  · rw [h]
    exact hjoined
  · rw [h, List.mem_append, not_or]
    exact ⟨hjoined, by decide⟩

/-! ## The spelling is its own absolute form -/

theorem isAbsolute_spell (double : Bool) (names : List Name) (ending : Bool) :
    (spell double names ending).isAbsolute = true := by
  cases double <;> rfl

theorem hasDoubleSlash_spell (double : Bool) (h : ∀ name ∈ names, Component name) (ending : Bool) :
    (spell double names ending).hasDoubleSlash = double := by
  cases names with
  | nil => cases double <;> cases ending <;> rfl
  | cons name names =>
      have hname := h name List.mem_cons_self
      obtain ⟨b, name, rfl⟩ := List.exists_cons_of_ne_nil hname.nonempty
      have hb : b ≠ slash := fun heq => hname.slash_notMem (heq ▸ List.mem_cons_self)
      cases double <;> simp [spell, intercalate_cons, opening, hasDoubleSlash, hb]

theorem endsWithSlash_spell (double : Bool) (h : ∀ name ∈ names, Component name) (ending : Bool) :
    (spell double names ending).endsWithSlash = (ending || names.isEmpty) := by
  rw [spell_eq double h]
  cases hend : ending && !((opening double).joinAll names).endsWithSlash with
  | true =>
      rw [Bool.and_eq_true] at hend
      simp [endsWithSlash, hend.1]
  | false =>
      rw [if_neg Bool.false_ne_true, endsWithSlash_joinAll_opening double h]
      rw [endsWithSlash_joinAll_opening double h] at hend
      cases ending with
      | true => simpa using hend
      | false => rfl

theorem components_spell (double : Bool) (h : ∀ name ∈ names, Component name) (ending : Bool) :
    (spell double names ending).components = names := by
  have hjoined : ((opening double).joinAll names).components = names := by
    rw [components_joinAll h, components_opening, List.nil_append]
  rw [spell_eq double h]
  split
  · rw [components_eq, steps_append_end, ← components_eq, hjoined]
  · exact hjoined

/-- A path so spelled is its own absolute form, whatever the current directory. -/
theorem absolute_spell (double : Bool) (h : ∀ name ∈ names, Component name) (ending : Bool) (cwd : Path) :
    (spell double names ending).absolute cwd = spell double names ending := by
  have hstart : (spell double names ending).absoluteStart cwd = opening double := by
    rw [absoluteStart, isAbsolute_spell, hasDoubleSlash_spell double h]
    rfl
  rw [absolute_eq, hstart, components_spell double h, endsWithSlash_spell double h, spell_eq double h,
    endsWithSlash_joinAll_opening double h]
  cases ending <;> cases names <;> rfl

theorem absolute_absolute (p : Path) {cwd : List Name} (hcwd : ∀ name ∈ cwd, Component name) (other : Path) :
    (p.absolute (ofNames cwd)).absolute other = p.absolute (ofNames cwd) := by
  rw [absolute_eq_spell p hcwd, absolute_spell _ (absoluteNames_component hcwd)]

/-! ## A slash at the end -/

/-- The paths are equal, but that one may have a slash at the end, behind a name. -/
inductive EqUpToSlash : Path → Path → Prop
  | refl (p : Path) : EqUpToSlash p p
  | more {p : Path} (h : p.endsWithSlash = false) : EqUpToSlash p ⟨p.bytes ++ [slash]⟩
  | less {p : Path} (h : p.endsWithSlash = false) : EqUpToSlash ⟨p.bytes ++ [slash]⟩ p

theorem EqUpToSlash.steps_eq (h : EqUpToSlash p q) : p.steps = q.steps := by
  cases h with
  | refl => rfl
  | more => exact (steps_append_end _).symm
  | less => exact steps_append_end _

/-- Behind a name, a slash at the end is all that two spellings differ by. -/
theorem eqUpToSlash_spell (double : Bool) (h : ∀ name ∈ names, Component name) (hne : names ≠ []) :
    EqUpToSlash (spell double names false) (spell double names true) := by
  have hend : (spell double names false).endsWithSlash = false := by
    rw [endsWithSlash_spell double h, List.isEmpty_eq_false_iff.mpr hne]
    rfl
  have hmore : spell double names true = ⟨(spell double names false).bytes ++ [slash]⟩ := by
    simp [spell, hne]
  rw [hmore]
  exact .more hend

theorem join_append_slash (hne : p.bytes ≠ []) (h : p.endsWithSlash = false) (name : Name) :
    join ⟨p.bytes ++ [slash]⟩ name = p.join name := by
  have hend : endsWithSlash ⟨p.bytes ++ [slash]⟩ = true := by simp [endsWithSlash]
  have hbytes : (join ⟨p.bytes ++ [slash]⟩ name).bytes = (p.join name).bytes := by
    rw [bytes_join_of_endsWithSlash hend, bytes_join_of_not_endsWithSlash hne h, List.append_assoc,
      List.singleton_append]
  exact congrArg Path.mk hbytes

theorem EqUpToSlash.join_eq (h : EqUpToSlash p q) (hp : p.bytes ≠ []) (hq : q.bytes ≠ []) (name : Name) :
    p.join name = q.join name := by
  cases h with
  | refl => rfl
  | more hend => exact (join_append_slash hp hend name).symm
  | less hend => exact join_append_slash hq hend name

end BuilderAudit.Path
