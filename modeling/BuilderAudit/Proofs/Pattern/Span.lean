import BuilderAudit.Pattern.Expr

/-!
# Texts in their surroundings

What a pattern matches depends on what stands around the text, so its meaning is a `Span`: a condition on a text, on
what stands before it, given backwards, and on what stands after it. Patterns are put together by operations on spans:

* `Span.nothing`, `Span.place`, `Span.anything`, `Span.oneOf` : the empty text, a place in the text, any text, a single
  character;
* `Span.andThen`, `Span.either`, `Span.times`, `Span.repeated` : sequences, choices and repetitions, with their laws;
* `Expr.matches_seq`, `Expr.matches_alt`, `Expr.matches_repetition` : `Expr.Matches` is put together in this way.
-/

namespace BuilderAudit.Pattern

/-- A condition on a text between what stands before it, given backwards, and what stands after it. -/
abbrev Span := List Char → List Char → List Char → Prop

namespace Span

def nothing : Span := fun _ text _ => text = []

/-- The empty text at a place between what stands before and after it. -/
def place (p : List Char → List Char → Prop) : Span := fun before text after => text = [] ∧ p before after

def anything : Span := fun _ _ _ => True

def oneOf (s : Char → Prop) : Span := fun _ text _ => ∃ c, text = [c] ∧ s c

/-- A text and another one behind it, each in the surroundings it has there. -/
def andThen (R S : Span) : Span := fun before text after =>
  ∃ u v, text = u ++ v ∧ R before u (v ++ after) ∧ S (u.reverse ++ before) v after

def either (R S : Span) : Span := fun before text after => R before text after ∨ S before text after

def times (R : Span) : Nat → Span
  | 0 => nothing
  | n + 1 => R.andThen (R.times n)

/-- At least `min` and at most `max` texts in a row. -/
def repeated (R : Span) (min : Nat) (max : Option Nat) : Span := fun before text after =>
  ∃ n, min ≤ n ∧ (∀ m ∈ max, n ≤ m) ∧ R.times n before text after

/-- Only the empty text meets the condition. -/
def Widthless (R : Span) : Prop := ∀ before text after, R before text after → text = []

variable {R S T : Span} {before text after : List Char} {c : Char}

theorem ext (h : ∀ before text after, R before text after ↔ S before text after) : R = S := by
  funext before text after
  exact propext (h before text after)

/-! ## Sequences -/

theorem andThen_nil : R.andThen S before [] after ↔ R before [] after ∧ S before [] after := by
  constructor
  · rintro ⟨u, v, huv, hu, hv⟩
    obtain ⟨rfl, rfl⟩ := List.append_eq_nil_iff.mp huv.symm
    exact ⟨hu, hv⟩
  · rintro ⟨hR, hS⟩
    exact ⟨[], [], rfl, hR, hS⟩

/-- The first text of a sequence is empty, or it begins with the first character. -/
theorem andThen_cons :
    R.andThen S before (c :: text) after ↔
      (R before [] (c :: text ++ after) ∧ S before (c :: text) after) ∨
        ∃ u v, text = u ++ v ∧ R before (c :: u) (v ++ after) ∧ S (u.reverse ++ c :: before) v after := by
  constructor
  · rintro ⟨u, v, huv, hu, hv⟩
    cases u with
    | nil =>
        subst huv
        exact .inl ⟨hu, hv⟩
    | cons d u =>
        obtain ⟨rfl, rfl⟩ := List.cons.inj huv
        rw [List.reverse_cons, List.append_assoc] at hv
        exact .inr ⟨u, v, rfl, hu, hv⟩
  · rintro (⟨hR, hS⟩ | ⟨u, v, rfl, hR, hS⟩)
    · exact ⟨[], c :: text, rfl, hR, hS⟩
    · refine ⟨c :: u, v, rfl, hR, ?_⟩
      rw [List.reverse_cons, List.append_assoc]
      exact hS

theorem andThen_assoc (R S T : Span) : (R.andThen S).andThen T = R.andThen (S.andThen T) := by
  apply ext
  intro before text after
  constructor
  · rintro ⟨_, w, rfl, ⟨u, v, rfl, hu, hv⟩, hw⟩
    rw [← List.append_assoc] at hu
    rw [List.reverse_append, List.append_assoc] at hw
    exact ⟨u, v ++ w, List.append_assoc u v w, hu, v, w, rfl, hv, hw⟩
  · rintro ⟨u, _, rfl, hu, v, w, rfl, hv, hw⟩
    rw [List.append_assoc] at hu
    refine ⟨u ++ v, w, (List.append_assoc u v w).symm, ⟨u, v, rfl, hu, hv⟩, ?_⟩
    rw [List.reverse_append, List.append_assoc]
    exact hw

theorem anything_andThen :
    anything.andThen R before text after ↔ ∃ u v, text = u ++ v ∧ R (u.reverse ++ before) v after := by
  simp only [andThen, anything, true_and]

theorem andThen_anything : R.andThen anything before text after ↔ ∃ u v, text = u ++ v ∧ R before u (v ++ after) := by
  simp only [andThen, anything, and_true]

theorem nothing_andThen (R : Span) : nothing.andThen R = R := by
  apply ext
  intro before text after
  constructor
  · rintro ⟨_, v, rfl, rfl, hv⟩
    exact hv
  · intro h
    exact ⟨[], text, rfl, rfl, h⟩

theorem andThen_nothing (R : Span) : R.andThen nothing = R := by
  apply ext
  intro before text after
  constructor
  · rintro ⟨u, _, rfl, hu, rfl⟩
    rw [List.append_nil]
    exact hu
  · intro h
    exact ⟨text, [], (List.append_nil text).symm, h, rfl⟩

/-- A choice before a text is a choice of sequences. -/
theorem either_andThen (R S T : Span) : (R.either S).andThen T = (R.andThen T).either (S.andThen T) := by
  apply ext
  intro before text after
  constructor
  · rintro ⟨u, v, huv, hu | hu, hv⟩
    · exact .inl ⟨u, v, huv, hu, hv⟩
    · exact .inr ⟨u, v, huv, hu, hv⟩
  · rintro (⟨u, v, huv, hu, hv⟩ | ⟨u, v, huv, hu, hv⟩)
    · exact ⟨u, v, huv, .inl hu, hv⟩
    · exact ⟨u, v, huv, .inr hu, hv⟩

/-! ## Repetitions -/

theorem times_one (R : Span) : R.times 1 = R := andThen_nothing R

theorem times_add (R : Span) (m n : Nat) : R.times (m + n) = (R.times m).andThen (R.times n) := by
  induction m with
  | zero =>
      rw [Nat.zero_add]
      exact (nothing_andThen (R.times n)).symm
  | succ m ih =>
      rw [Nat.add_right_comm]
      show R.andThen (R.times (m + n)) = (R.andThen (R.times m)).andThen (R.times n)
      rw [ih, andThen_assoc]

/-- The least number of texts can be counted apart. -/
theorem repeated_eq {min : Nat} {max : Option Nat} (h : ∀ m ∈ max, min ≤ m) :
    R.repeated min max = (R.times min).andThen (R.repeated 0 (max.map (· - min))) := by
  apply ext
  intro before text after
  constructor
  · rintro ⟨n, hmin, hmax, hn⟩
    obtain ⟨k, rfl⟩ := Nat.exists_eq_add_of_le hmin
    rw [times_add] at hn
    obtain ⟨u, v, huv, hu, hv⟩ := hn
    refine ⟨u, v, huv, hu, k, Nat.zero_le k, ?_, hv⟩
    intro m' hm'
    obtain ⟨m, hm, rfl⟩ := Option.map_eq_some_iff.mp hm'
    have := hmax m hm
    omega
  · rintro ⟨u, v, huv, hu, k, _, hmax, hv⟩
    refine ⟨min + k, Nat.le_add_right min k, ?_, ?_⟩
    · intro m hm
      have hk : k ≤ m - min := hmax (m - min) (Option.map_eq_some_iff.mpr ⟨m, hm, rfl⟩)
      have hm := h m hm
      omega
    · rw [times_add]
      exact ⟨u, v, huv, hu, hv⟩

/-- At most `k` texts are `k` texts of which each may be missing. -/
theorem times_either_nothing (R : Span) (k : Nat) : (R.either nothing).times k = R.repeated 0 (some k) := by
  induction k with
  | zero =>
      apply ext
      intro before text after
      constructor
      · intro h
        exact ⟨0, Nat.le_refl 0, fun m hm => Nat.zero_le m, h⟩
      · rintro ⟨n, _, hmax, hn⟩
        obtain rfl := Nat.le_zero.mp (hmax 0 rfl)
        exact hn
  | succ k ih =>
      show (R.either nothing).andThen ((R.either nothing).times k) = _
      rw [ih, either_andThen, nothing_andThen]
      apply ext
      intro before text after
      constructor
      · rintro (⟨u, v, huv, hu, n, _, hmax, hn⟩ | ⟨n, _, hmax, hn⟩)
        · have hnk := hmax k rfl
          refine ⟨n + 1, Nat.zero_le _, ?_, u, v, huv, hu, hn⟩
          rintro _ ⟨⟩
          omega
        · have hnk := hmax k rfl
          refine ⟨n, Nat.zero_le _, ?_, hn⟩
          rintro _ ⟨⟩
          omega
      · rintro ⟨n, _, hmax, hn⟩
        have hnk := hmax (k + 1) rfl
        cases n with
        | zero => exact .inr ⟨0, Nat.le_refl 0, fun m _ => Nat.zero_le m, hn⟩
        | succ n =>
            obtain ⟨u, v, huv, hu, hv⟩ := hn
            refine .inl ⟨u, v, huv, hu, n, Nat.zero_le n, ?_, hv⟩
            rintro _ ⟨⟩
            omega

theorem repeated_nil : R.repeated 0 none before [] after := ⟨0, Nat.le_refl 0, nofun, rfl⟩

/-- If texts in a row begin with a character, so does one of them, and those before it are empty. -/
theorem repeated_cons :
    R.repeated 0 none before (c :: text) after ↔
      ∃ u v, text = u ++ v ∧ R before (c :: u) (v ++ after) ∧ R.repeated 0 none (u.reverse ++ c :: before) v after := by
  constructor
  · rintro ⟨n, _, _, hn⟩
    induction n with
    | zero => cases hn
    | succ n ih =>
        rcases andThen_cons.mp hn with ⟨_, hn⟩ | ⟨u, v, huv, hu, hv⟩
        · exact ih (Nat.zero_le n) nofun hn
        · exact ⟨u, v, huv, hu, n, Nat.zero_le n, nofun, hv⟩
  · rintro ⟨u, v, huv, hu, n, _, _, hv⟩
    exact ⟨n + 1, Nat.zero_le _, nofun, andThen_cons.mpr (.inr ⟨u, v, huv, hu, hv⟩)⟩

/-! ## Conditions on the empty text -/

theorem Widthless.andThen (hR : R.Widthless) (hS : S.Widthless) : (R.andThen S).Widthless := by
  rintro before _ after ⟨u, v, rfl, hu, hv⟩
  obtain rfl := hR _ _ _ hu
  obtain rfl := hS _ _ _ hv
  rfl

theorem Widthless.times (h : R.Widthless) (n : Nat) : (R.times n).Widthless := by
  induction n with
  | zero => exact fun _ _ _ => id
  | succ n ih => exact h.andThen ih

/-- Repeating a condition on the empty text changes nothing. -/
theorem Widthless.times_succ (h : R.Widthless) (n : Nat) : R.times (n + 1) = R := by
  apply ext
  intro before text after
  constructor
  · rintro ⟨u, v, rfl, hu, hv⟩
    obtain rfl := h _ _ _ hu
    obtain rfl := h.times n _ _ _ hv
    exact hu
  · intro hR
    obtain rfl := h _ _ _ hR
    induction n with
    | zero => exact andThen_nil.mpr ⟨hR, rfl⟩
    | succ n ih => exact andThen_nil.mpr ⟨hR, ih⟩

theorem Widthless.repeated_zero (h : R.Widthless) (max : Option Nat) : R.repeated 0 max = nothing := by
  apply ext
  intro before text after
  constructor
  · rintro ⟨n, _, _, hn⟩
    exact h.times n _ _ _ hn
  · intro htext
    exact ⟨0, Nat.le_refl 0, fun m _ => Nat.zero_le m, htext⟩

theorem Widthless.repeated_succ (h : R.Widthless) {min : Nat} {max : Option Nat} (hmax : ∀ m ∈ max, min + 1 ≤ m) :
    R.repeated (min + 1) max = R := by
  rw [repeated_eq hmax, h.times_succ, h.repeated_zero, andThen_nothing]

end Span

/-! ## Expressions -/

namespace Expr

variable {e f : Expr}

theorem matches_empty : Expr.empty.Matches = Span.nothing := by
  apply Span.ext
  intro before text after
  constructor
  · rintro ⟨⟩
    rfl
  · rintro rfl
    exact .empty before after

theorem matches_chars (set : CodeSet) : (chars set).Matches = Span.oneOf (set.containsChar · = true) := by
  apply Span.ext
  intro before text after
  constructor
  · rintro ⟨⟩
    exact ⟨_, rfl, ‹_›⟩
  · rintro ⟨c, rfl, hc⟩
    exact .chars before after hc

theorem matches_look (l : Look) :
    (look l).Matches = Span.place fun before after => l.holds before.head? after.head? = true := by
  apply Span.ext
  intro before text after
  constructor
  · rintro ⟨⟩
    exact ⟨rfl, ‹_›⟩
  · rintro ⟨rfl, hl⟩
    exact .look hl

theorem matches_seq (e f : Expr) : (seq e f).Matches = Span.andThen e.Matches f.Matches := by
  apply Span.ext
  intro before text after
  constructor
  · rintro ⟨⟩
    exact ⟨_, _, rfl, ‹_›, ‹_›⟩
  · rintro ⟨u, v, rfl, hu, hv⟩
    exact .seq hu hv

theorem matches_alt (e f : Expr) : (alt e f).Matches = Span.either e.Matches f.Matches := by
  apply Span.ext
  intro before text after
  constructor
  · rintro (_ | _)
    · exact .inl ‹_›
    · exact .inr ‹_›
  · rintro (h | h)
    · exact .altLeft h
    · exact .altRight h

theorem matches_repetition (e : Expr) (min : Nat) (max : Option Nat) :
    (repetition e min max).Matches = Span.repeated e.Matches min max := by
  apply Span.ext
  intro before text after
  constructor
  · intro h
    generalize he : repetition e min max = r at h
    induction h generalizing min max with
    | done =>
        cases he
        exact ⟨0, Nat.le_refl 0, fun m _ => Nat.zero_le m, rfl⟩
    | more hmax hu _ _ ih =>
        cases he
        obtain ⟨n, hmin, hmax', hn⟩ := ih _ _ rfl
        refine ⟨n + 1, by omega, ?_, _, _, rfl, hu, hn⟩
        rintro m rfl
        have hm : m ≠ 0 := fun hm => hmax (congrArg some hm)
        have := hmax' (m - 1) rfl
        omega
    | _ => cases he
  · rintro ⟨n, hmin, hmax, hn⟩
    induction n generalizing min max before text with
    | zero =>
        obtain rfl := Nat.le_zero.mp hmin
        obtain rfl : text = [] := hn
        exact .done max before after
    | succ n ih =>
        obtain ⟨u, v, rfl, hu, hv⟩ := hn
        refine .more ?_ hu (ih _ _ _ _ (by omega) ?_ hv)
        · rintro rfl
          exact Nat.not_succ_le_zero n (hmax 0 rfl)
        · intro m' hm'
          obtain ⟨m, hm, rfl⟩ := Option.map_eq_some_iff.mp hm'
          have := hmax m hm
          omega

theorem matches_capture (e : Expr) : (capture e).Matches = e.Matches := by
  apply Span.ext
  intro before text after
  constructor
  · rintro ⟨⟩
    assumption
  · exact .capture

end Expr

end BuilderAudit.Pattern
