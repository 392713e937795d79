import BuilderAudit.FileTree.Resolve
import Mathlib.Data.List.Basic

/-!
# Names of paths

How the names of a path come out of its bytes, and what joining a name does to them.

* `ProperName` : a name that a directory can hold;
* `Path.joinAll` : the place under some names below a path;
* `Path.Piece`, `Path.Component` : a name as it comes out of the bytes of a path, and one that counts;
* `steps_join`, `components_join` : a joined name comes last (`steps_joinAll`, `components_joinAll`);
* `Undotted` : a list of names without some of its single dots; `undotted_components` says that the components of a path
  are its names without them;
* `steps_absolute` : the names of an absolute form.
-/

namespace BuilderAudit

/-- A name that a directory can hold. -/
structure ProperName (name : Name) : Prop where
  nonempty : name ≠ []
  slash_notMem : Path.slash ∉ name
  nul_notMem : 0 ∉ name
  ne_dot : name ≠ [Path.dot]
  ne_dots : name ≠ [Path.dot, Path.dot]
  length_le : name.length ≤ nameLimit

instance (name : Name) : Decidable (ProperName name) :=
  decidable_of_iff (name ≠ [] ∧ Path.slash ∉ name ∧ 0 ∉ name ∧ name ≠ [Path.dot] ∧ name ≠ [Path.dot, Path.dot] ∧
      name.length ≤ nameLimit)
    ⟨fun ⟨h1, h2, h3, h4, h5, h6⟩ => ⟨h1, h2, h3, h4, h5, h6⟩,
      fun h => ⟨h.nonempty, h.slash_notMem, h.nul_notMem, h.ne_dot, h.ne_dots, h.length_le⟩⟩

namespace Path

def joinAll (p : Path) (names : List Name) : Path := names.foldl join p

@[simp] theorem joinAll_nil (p : Path) : p.joinAll [] = p := rfl

@[simp] theorem joinAll_cons (p : Path) (name : Name) (names : List Name) :
    p.joinAll (name :: names) = (p.join name).joinAll names := rfl

theorem joinAll_concat (p : Path) (names : List Name) (name : Name) :
    p.joinAll (names ++ [name]) = (p.joinAll names).join name :=
  List.foldl_concat ..

/-! ## Segments -/

theorem splitSlash_slash (bytes : List UInt8) :
    splitSlash (slash :: bytes) = ([], (splitSlash bytes).1 :: (splitSlash bytes).2) := by
  simp [splitSlash]

theorem splitSlash_cons {b : UInt8} (hb : b ≠ slash) (bytes : List UInt8) :
    splitSlash (b :: bytes) = (b :: (splitSlash bytes).1, (splitSlash bytes).2) := by
  simp [splitSlash, hb]

theorem segments_mk (bytes : List UInt8) : segments ⟨bytes⟩ = (splitSlash bytes).1 :: (splitSlash bytes).2 := rfl

theorem segments_slash (bytes : List UInt8) : segments ⟨slash :: bytes⟩ = [] :: segments ⟨bytes⟩ := by
  rw [segments_mk, segments_mk, splitSlash_slash]

theorem segments_cons {b : UInt8} (hb : b ≠ slash) (bytes : List UInt8) :
    ∃ first rest, segments ⟨bytes⟩ = first :: rest ∧ segments ⟨b :: bytes⟩ = (b :: first) :: rest := by
  refine ⟨_, _, segments_mk bytes, ?_⟩
  rw [segments_mk, splitSlash_cons hb]

/-- A slash divides the segments. -/
theorem segments_append_slash (bytes more : List UInt8) :
    segments ⟨bytes ++ slash :: more⟩ = segments ⟨bytes⟩ ++ segments ⟨more⟩ := by
  induction bytes with
  | nil => exact segments_slash more
  | cons b bytes ih =>
      by_cases hb : b = slash
      · rw [hb, List.cons_append, segments_slash, segments_slash, ih, List.cons_append]
      · obtain ⟨first, rest, h, hcons⟩ := segments_cons hb (bytes ++ slash :: more)
        obtain ⟨first', rest', h', hcons'⟩ := segments_cons hb bytes
        rw [ih, h', List.cons_append, List.cons.injEq] at h
        rw [List.cons_append, hcons, hcons', ← h.1, ← h.2, List.cons_append]

theorem segments_of_slash_notMem {bytes : List UInt8} (h : slash ∉ bytes) : segments ⟨bytes⟩ = [bytes] := by
  induction bytes with
  | nil => rfl
  | cons b bytes ih =>
      rw [List.mem_cons, not_or] at h
      obtain ⟨first, rest, hs, hcons⟩ := segments_cons (Ne.symm h.1) bytes
      rw [ih h.2, List.cons.injEq] at hs
      rw [hcons, ← hs.1, ← hs.2]

theorem slash_notMem_of_mem_segments {bytes : List UInt8} {s : Name} (h : s ∈ segments ⟨bytes⟩) : slash ∉ s := by
  induction bytes generalizing s with
  | nil =>
      rw [show segments ⟨[]⟩ = [[]] from rfl, List.mem_singleton] at h
      simp [h]
  | cons b bytes ih =>
      by_cases hb : b = slash
      · rw [hb, segments_slash, List.mem_cons] at h
        rcases h with rfl | h
        · simp
        · exact ih h
      · obtain ⟨first, rest, hs, hcons⟩ := segments_cons hb bytes
        rw [hcons, List.mem_cons] at h
        rcases h with rfl | h
        · rw [List.mem_cons, not_or]
          exact ⟨Ne.symm hb, ih (by rw [hs]; exact List.mem_cons_self)⟩
        · exact ih (by rw [hs]; exact List.mem_cons_of_mem _ h)

/-- The names of a path hold none but its bytes. -/
theorem mem_of_mem_segments {bytes : List UInt8} {s : Name} (h : s ∈ segments ⟨bytes⟩) : ∀ b ∈ s, b ∈ bytes := by
  induction bytes generalizing s with
  | nil =>
      rw [segments_mk] at h
      rw [List.mem_singleton.mp h]
      simp [splitSlash]
  | cons c bytes ih =>
      intro b hb
      rw [segments_mk] at ih
      by_cases hc : c = slash
      · subst hc
        rw [segments_slash, List.mem_cons] at h
        rcases h with rfl | h
        · cases hb
        · exact List.mem_cons_of_mem _ (ih h b hb)
      · rw [segments_mk, splitSlash_cons hc, List.mem_cons] at h
        rcases h with rfl | h
        · rcases List.mem_cons.mp hb with rfl | hb
          · exact List.mem_cons_self
          · exact List.mem_cons_of_mem _ (ih List.mem_cons_self b hb)
        · exact List.mem_cons_of_mem _ (ih (List.mem_cons_of_mem _ h) b hb)

/-! ## Names, dots included -/

theorem steps_eq (p : Path) : p.steps = p.segments.filter fun s => !s.isEmpty := rfl

theorem steps_append_slash (bytes more : List UInt8) :
    steps ⟨bytes ++ slash :: more⟩ = steps ⟨bytes⟩ ++ steps ⟨more⟩ := by
  rw [steps_eq, segments_append_slash, List.filter_append, ← steps_eq, ← steps_eq]

theorem steps_of_slash_notMem {name : Name} (hne : name ≠ []) (h : slash ∉ name) : steps ⟨name⟩ = [name] := by
  rw [steps_eq, segments_of_slash_notMem h]
  simp [hne]

@[simp] theorem steps_empty : steps ⟨[]⟩ = [] := rfl

@[simp] theorem steps_root : steps ⟨[slash]⟩ = [] := rfl

theorem mem_steps {p : Path} {s : Name} (h : s ∈ p.steps) : s ≠ [] ∧ slash ∉ s := by
  rw [steps_eq, List.mem_filter] at h
  exact ⟨by simpa using h.2, slash_notMem_of_mem_segments h.1⟩

/-- A name as it comes out of the bytes of a path: it may still be a dot, two dots or too long. -/
structure Piece (name : Name) : Prop where
  nonempty : name ≠ []
  slash_notMem : slash ∉ name
  nul_notMem : 0 ∉ name

theorem piece_of_mem_steps {p : Path} (h : 0 ∉ p.bytes) : ∀ name ∈ p.steps, Piece name := by
  intro name hname
  obtain ⟨hne, hslash⟩ := mem_steps hname
  rw [steps_eq, List.mem_filter] at hname
  exact ⟨hne, hslash, fun hnul => h (mem_of_mem_segments hname.1 0 hnul)⟩

/-- The bytes of a path that ends with a slash, before that slash. -/
theorem exists_of_endsWithSlash {p : Path} (h : p.endsWithSlash = true) : ∃ bytes, p = ⟨bytes ++ [slash]⟩ := by
  simp only [endsWithSlash, beq_iff_eq] at h
  obtain ⟨bytes, hb⟩ := List.getLast?_eq_some_iff.mp h
  exact ⟨bytes, by rw [← hb]⟩

theorem steps_append_end (bytes : List UInt8) : steps ⟨bytes ++ [slash]⟩ = steps ⟨bytes⟩ := by
  rw [steps_append_slash, steps_empty, List.append_nil]

theorem steps_join {p : Path} {name : Name} (hne : name ≠ []) (h : slash ∉ name) :
    (p.join name).steps = p.steps ++ [name] := by
  unfold join
  split
  · next hp =>
    rw [Bool.or_eq_true] at hp
    rcases hp with hp | hp
    · obtain ⟨bytes⟩ := p
      rw [isEmpty, List.isEmpty_iff] at hp
      subst hp
      exact steps_of_slash_notMem hne h
    · obtain ⟨bytes, rfl⟩ := exists_of_endsWithSlash hp
      rw [List.append_assoc, List.singleton_append, steps_append_slash, steps_append_end,
        steps_of_slash_notMem hne h]
  · rw [steps_append_slash, steps_of_slash_notMem hne h]

theorem steps_joinAll {p : Path} {names : List Name} (h : ∀ name ∈ names, name ≠ [] ∧ slash ∉ name) :
    (p.joinAll names).steps = p.steps ++ names := by
  induction names generalizing p with
  | nil => simp
  | cons name names ih =>
      have hname := h name List.mem_cons_self
      rw [joinAll_cons, ih fun n hn => h n (List.mem_cons_of_mem _ hn), steps_join hname.1 hname.2,
        List.append_assoc, List.singleton_append]

/-! ## Names that count -/

theorem components_eq (p : Path) : p.components = p.steps.filter (· ≠ [dot]) := by
  rw [steps_eq, List.filter_filter]
  refine List.filter_congr fun s _ => ?_
  rw [Bool.eq_iff_iff]
  simp [and_comm]

theorem components_join {p : Path} {name : Name} (h : ProperName name) :
    (p.join name).components = p.components ++ [name] := by
  rw [components_eq, steps_join h.nonempty h.slash_notMem, List.filter_append, ← components_eq]
  simp [h.ne_dot]

/-- A name that counts, which may still lead up. -/
structure Component (name : Name) : Prop where
  nonempty : name ≠ []
  slash_notMem : slash ∉ name
  ne_dot : name ≠ [dot]

theorem Component.ofProper {name : Name} (h : ProperName name) : Component name :=
  ⟨h.nonempty, h.slash_notMem, h.ne_dot⟩

theorem mem_components {p : Path} {s : Name} (h : s ∈ p.components) : Component s := by
  rw [components_eq, List.mem_filter] at h
  obtain ⟨hne, hslash⟩ := mem_steps h.1
  exact ⟨hne, hslash, by simpa using h.2⟩

theorem components_joinAll {p : Path} {names : List Name} (h : ∀ name ∈ names, Component name) :
    (p.joinAll names).components = p.components ++ names := by
  rw [components_eq, steps_joinAll fun name hn => ⟨(h name hn).nonempty, (h name hn).slash_notMem⟩, List.filter_append,
    ← components_eq]
  congr 1
  exact List.filter_eq_self.mpr fun name hn => by simpa using (h name hn).ne_dot

end Path

/-! ## Dots left out -/

/-- `Undotted names less` : `less` is `names` without some of its single dots. -/
inductive Undotted : List Name → List Name → Prop
  | nil : Undotted [] []
  | keep {names less : List Name} (name : Name) : Undotted names less → Undotted (name :: names) (name :: less)
  | drop {names less : List Name} : Undotted names less → Undotted ([Path.dot] :: names) less

theorem Undotted.refl : ∀ names : List Name, Undotted names names
  | [] => .nil
  | name :: names => .keep name (refl names)

theorem Undotted.append_left {names less : List Name} (h : Undotted names less) :
    ∀ front : List Name, Undotted (front ++ names) (front ++ less)
  | [] => h
  | name :: front => .keep name (h.append_left front)

theorem undotted_filter : ∀ names : List Name, Undotted names (names.filter (· ≠ [Path.dot]))
  | [] => .nil
  | name :: names => by
    by_cases h : name = [Path.dot]
    · rw [List.filter_cons_of_neg (by simpa using h), h]
      exact .drop (undotted_filter names)
    · rw [List.filter_cons_of_pos (by simpa using h)]
      exact .keep name (undotted_filter names)

namespace Path

theorem undotted_components (p : Path) : Undotted p.steps p.components := by
  rw [components_eq]
  exact undotted_filter p.steps

/-! ## Bytes of a joined path -/

theorem bytes_join (p : Path) (name : Name) :
    (p.join name).bytes = p.bytes ++ name ∨ (p.join name).bytes = p.bytes ++ slash :: name := by
  unfold join
  split
  · exact Or.inl rfl
  · exact Or.inr rfl

theorem nul_notMem_join {p : Path} {name : Name} (hp : 0 ∉ p.bytes) (h : 0 ∉ name) : 0 ∉ (p.join name).bytes := by
  rcases bytes_join p name with hb | hb
  · rw [hb, List.mem_append, not_or]
    exact ⟨hp, h⟩
  · rw [hb, List.mem_append, List.mem_cons, not_or, not_or]
    exact ⟨hp, by decide, h⟩

theorem bytes_join_ne_nil (p : Path) {name : Name} (h : name ≠ []) : (p.join name).bytes ≠ [] := by
  rcases bytes_join p name with hb | hb
  · rw [hb]
    exact List.append_ne_nil_of_right_ne_nil _ h
  · rw [hb]
    exact List.append_ne_nil_of_right_ne_nil _ (List.cons_ne_nil _ _)

theorem endsWithSlash_join (p : Path) {name : Name} (hne : name ≠ []) (h : slash ∉ name) :
    (p.join name).endsWithSlash = false := by
  have hlast : (p.join name).bytes.getLast? = name.getLast? := by
    rcases bytes_join p name with hb | hb
    · rw [hb, List.getLast?_append_of_ne_nil _ hne]
    · rw [hb, List.append_cons, List.getLast?_append_of_ne_nil _ hne]
  rw [endsWithSlash, hlast, beq_eq_false_iff_ne]
  intro heq
  exact h (List.mem_of_getLast? heq)

theorem isAbsolute_join {p : Path} (h : p.bytes ≠ []) (name : Name) : (p.join name).isAbsolute = p.isAbsolute := by
  have hhead : (p.join name).bytes.head? = p.bytes.head? := by
    rcases bytes_join p name with hb | hb
    · rw [hb, List.head?_append_of_ne_nil _ h]
    · rw [hb, List.head?_append_of_ne_nil _ h]
  rw [isAbsolute, isAbsolute, hhead]

/-! ## Absolute forms -/

theorem bytes_ne_nil_of_isAbsolute {p : Path} (h : p.isAbsolute = true) : p.bytes ≠ [] := by
  intro hb
  rw [isAbsolute, hb] at h
  cases h

theorem isAbsolute_joinAll {p : Path} (h : p.isAbsolute = true) : ∀ names, (p.joinAll names).isAbsolute = true
  | [] => h
  | name :: names =>
    isAbsolute_joinAll (by rw [isAbsolute_join (bytes_ne_nil_of_isAbsolute h), h]) names

/-- The directory from which the absolute form of a path is built. -/
def absoluteStart (p cwd : Path) : Path :=
  if !p.isAbsolute then cwd else if p.hasDoubleSlash then ⟨[slash, slash]⟩ else ⟨[slash]⟩

theorem absolute_eq (p cwd : Path) :
    p.absolute cwd =
      if p.endsWithSlash && !((p.absoluteStart cwd).joinAll p.components).endsWithSlash then
        ⟨((p.absoluteStart cwd).joinAll p.components).bytes ++ [slash]⟩
      else (p.absoluteStart cwd).joinAll p.components := rfl

/-- The absolute form of a path is its components below a start, and perhaps a slash. -/
theorem absolute_cases (p cwd : Path) :
    p.absolute cwd = (p.absoluteStart cwd).joinAll p.components ∨
      p.absolute cwd = ⟨((p.absoluteStart cwd).joinAll p.components).bytes ++ [slash]⟩ := by
  rw [absolute_eq]
  split
  · exact Or.inr rfl
  · exact Or.inl rfl

theorem steps_absolute (p cwd : Path) : (p.absolute cwd).steps = (p.absoluteStart cwd).steps ++ p.components := by
  have hjoined : ((p.absoluteStart cwd).joinAll p.components).steps = (p.absoluteStart cwd).steps ++ p.components :=
    steps_joinAll fun s hs => ⟨(mem_components hs).nonempty, (mem_components hs).slash_notMem⟩
  rcases absolute_cases p cwd with h | h
  · rw [h, hjoined]
  · rw [h, steps_append_end, hjoined]

theorem steps_ofNames {names : List Name} (h : ∀ name ∈ names, ProperName name) : (ofNames names).steps = names := by
  rw [show ofNames names = joinAll ⟨[slash]⟩ names from rfl,
    steps_joinAll fun name hn => ⟨(h name hn).nonempty, (h name hn).slash_notMem⟩]
  simp

theorem isAbsolute_ofNames (names : List Name) : (ofNames names).isAbsolute = true :=
  isAbsolute_joinAll rfl names

theorem steps_absoluteStart_of_isAbsolute {p : Path} (h : p.isAbsolute = true) (cwd : Path) :
    (p.absoluteStart cwd).steps = [] := by
  unfold absoluteStart
  rw [h]
  split
  · contradiction
  · split <;> rfl

theorem absoluteStart_of_relative {p : Path} (h : p.isAbsolute = false) (cwd : Path) : p.absoluteStart cwd = cwd := by
  simp [absoluteStart, h]

theorem isAbsolute_absoluteStart (p : Path) {cwd : Path} (h : cwd.isAbsolute = true) :
    (p.absoluteStart cwd).isAbsolute = true := by
  unfold absoluteStart
  split
  · exact h
  · split <;> rfl

theorem isAbsolute_absolute (p : Path) {cwd : Path} (h : cwd.isAbsolute = true) :
    (p.absolute cwd).isAbsolute = true := by
  have hjoined := isAbsolute_joinAll (isAbsolute_absoluteStart p h) p.components
  rcases absolute_cases p cwd with he | he
  · rw [he]
    exact hjoined
  · rw [he, isAbsolute, List.head?_append]
    rw [isAbsolute, beq_iff_eq] at hjoined
    rw [hjoined]
    rfl

end Path

end BuilderAudit
