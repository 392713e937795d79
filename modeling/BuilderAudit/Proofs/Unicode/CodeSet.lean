import BuilderAudit.Unicode.CaseFolding

/-!
# The members of sets of code points

Every operation on sets of code points has the members that its name says, whatever order the intervals of its operands
stand in.

* `CodeSet.contains_normalize` : tidying the intervals up keeps the members;
* `CodeSet.contains_union`, `CodeSet.contains_inter`, `CodeSet.contains_diff`, `CodeSet.contains_symmDiff`,
  `CodeSet.contains_compl_iff` : the set operations;
* `CodeSet.contains_foldCase_iff`, `CodeSet.contains_foldAsciiCase_iff` : what is equal to a member up to letter case.
-/

namespace BuilderAudit

/-! ## Intervals -/

namespace CodeRange

theorem contains_iff {r : CodeRange} {n : Nat} : r.contains n = true ↔ r.first ≤ n ∧ n ≤ r.last := by
  rw [contains, Bool.and_eq_true, decide_eq_true_eq, decide_eq_true_eq]

theorem any_diff (r t : CodeRange) (n : Nat) :
    ((r.diff t).any fun q => q.contains n) = (r.contains n && !t.contains n) := by
  rw [Bool.eq_iff_iff, Bool.and_eq_true, Bool.not_eq_true', Bool.eq_false_iff, Ne, contains_iff, contains_iff, diff]
  split
  · next hapart =>
    simp only [Bool.or_eq_true, decide_eq_true_eq] at hapart
    simp only [List.any_cons, List.any_nil, Bool.or_false, contains_iff]
    omega
  · next hapart =>
    simp only [Bool.or_eq_true, decide_eq_true_eq] at hapart
    rw [List.any_append, Bool.or_eq_true]
    split <;> split <;>
      simp only [List.any_cons, List.any_nil, Bool.or_false, contains_iff, Bool.false_eq_true, or_false, false_or,
        false_iff] <;>
      omega

theorem any_inter (r t : CodeRange) (n : Nat) :
    ((r.inter t).any fun q => q.contains n) = (r.contains n && t.contains n) := by
  rw [Bool.eq_iff_iff, Bool.and_eq_true, contains_iff, contains_iff]
  unfold inter
  dsimp only
  split <;> simp only [List.any_cons, List.any_nil, Bool.or_false, contains_iff, Bool.false_eq_true, false_iff] <;>
    omega

end CodeRange

namespace CodeSet

variable {s t : CodeSet} {n : Nat}

/-! ## Tidying up -/

theorem any_joinNext (r : CodeRange) (done : List CodeRange) :
    ((joinNext r done).any fun q => q.contains n) = (r.contains n || done.any fun q => q.contains n) := by
  cases done with
  | nil => rfl
  | cons t rest =>
      rw [joinNext]
      split
      · next hjoined =>
        rw [Bool.and_eq_true, decide_eq_true_eq, decide_eq_true_eq] at hjoined
        have hunion : (⟨t.first, max t.last r.last⟩ : CodeRange).contains n = (r.contains n || t.contains n) := by
          rw [Bool.eq_iff_iff, Bool.or_eq_true]
          simp only [CodeRange.contains_iff]
          omega
        rw [List.any_cons, List.any_cons, hunion, Bool.or_assoc]
      · rfl

theorem any_foldl_joinNext (rs done : List CodeRange) :
    ((rs.foldl (fun done r => joinNext r done) done).any fun q => q.contains n) =
      ((done.any fun q => q.contains n) || rs.any fun q => q.contains n) := by
  induction rs generalizing done with
  | nil => exact (Bool.or_false _).symm
  | cons r rs ih =>
      rw [List.foldl_cons, ih, any_joinNext, List.any_cons, Bool.or_comm (r.contains n), Bool.or_assoc]

theorem contains_normalize (s : CodeSet) (n : Nat) : s.normalize.contains n = s.contains n := by
  have hproper : ∀ r : CodeRange, (decide (r.first ≤ r.last) && r.contains n) = r.contains n := by
    intro r
    rw [Bool.eq_iff_iff, Bool.and_eq_true, decide_eq_true_eq, CodeRange.contains_iff]
    omega
  unfold contains normalize
  rw [List.any_reverse, any_foldl_joinNext, List.any_nil, Bool.false_or, (List.mergeSort_perm _ _).any_eq,
    List.any_filter]
  simp only [hproper]

/-! ## Set operations -/

theorem contains_union (s t : CodeSet) (n : Nat) : (s.union t).contains n = (s.contains n || t.contains n) := by
  rw [union, contains_normalize]
  exact List.any_append

theorem contains_unionAll (sets : List CodeSet) (n : Nat) :
    (unionAll sets).contains n = sets.any fun s => s.contains n := by
  rw [unionAll, contains_normalize]
  exact List.any_flatMap

theorem contains_inter (s t : CodeSet) (n : Nat) : (s.inter t).contains n = (s.contains n && t.contains n) := by
  rw [inter, contains_normalize]
  unfold contains
  simp only [List.any_flatMap, CodeRange.any_inter]
  rw [List.and_any_distrib_right]
  simp only [List.and_any_distrib_left]

theorem any_foldl_diff (ts rs : List CodeRange) :
    ((ts.foldl (fun rest u => rest.flatMap fun r => r.diff u) rs).any fun q => q.contains n) =
      ((rs.any fun q => q.contains n) && !ts.any fun q => q.contains n) := by
  induction ts generalizing rs with
  | nil => exact (Bool.and_true _).symm
  | cons t ts ih =>
      rw [List.foldl_cons, ih, List.any_flatMap]
      simp only [CodeRange.any_diff]
      rw [← List.and_any_distrib_right, List.any_cons, Bool.not_or, Bool.and_assoc]

theorem contains_diff (s t : CodeSet) (n : Nat) : (s.diff t).contains n = (s.contains n && !t.contains n) := by
  rw [diff, contains_normalize]
  exact any_foldl_diff t.ranges s.ranges

theorem contains_symmDiff (s t : CodeSet) (n : Nat) : (s.symmDiff t).contains n = (s.contains n != t.contains n) := by
  rw [symmDiff, contains_union, contains_diff, contains_diff]
  cases s.contains n <;> cases t.contains n <;> rfl

theorem contains_scalars_iff : scalars.contains n = true ↔ n.isValidChar := by
  unfold contains scalars Nat.isValidChar
  simp only [List.any_cons, List.any_nil, Bool.or_false, Bool.or_eq_true, CodeRange.contains_iff]
  omega

theorem contains_compl_iff : s.compl.contains n = true ↔ n.isValidChar ∧ ¬ s.contains n = true := by
  rw [compl, contains_diff, Bool.and_eq_true, contains_scalars_iff, Bool.not_eq_true', Bool.eq_false_iff]

theorem contains_singleton_iff {c : Char} : (singleton c).contains n = true ↔ n = c.toNat := by
  unfold contains singleton
  simp only [List.any_cons, List.any_nil, Bool.or_false, CodeRange.contains_iff]
  omega

theorem contains_interval_iff {a b : Char} : (interval a b).contains n = true ↔ a.toNat ≤ n ∧ n ≤ b.toNat := by
  unfold contains interval
  simp only [List.any_cons, List.any_nil, Bool.or_false, CodeRange.contains_iff]

theorem contains_ofList_iff {codes : List Nat} : (ofList codes).contains n = true ↔ n ∈ codes := by
  unfold contains ofList
  rw [List.any_map, List.any_eq_true]
  constructor
  · rintro ⟨m, hm, hcontains⟩
    obtain ⟨hle, hge⟩ := CodeRange.contains_iff.mp hcontains
    obtain rfl := Nat.le_antisymm hle hge
    exact hm
  · intro hn
    exact ⟨n, hn, CodeRange.contains_iff.mpr ⟨Nat.le_refl n, Nat.le_refl n⟩⟩

/-! ## Letter case -/

def SameCase (m n : Nat) : Prop := m = n ∨ ∃ group ∈ CaseFolding.groups, m ∈ group ∧ n ∈ group

/-- The small letter of an ASCII letter; any other code point is its own. -/
def lowerAscii (n : Nat) : Nat := if 0x41 ≤ n ∧ n ≤ 0x5A then n + 0x20 else n

theorem contains_foldCase_iff : s.foldCase.contains n = true ↔ ∃ m, s.contains m = true ∧ SameCase m n := by
  rw [foldCase, contains_union, Bool.or_eq_true, contains_ofList_iff]
  simp only [List.mem_flatten, List.mem_filter, List.any_eq_true]
  constructor
  · rintro (h | ⟨group, ⟨hgroup, m, hm, hs⟩, hn⟩)
    · exact ⟨n, h, .inl rfl⟩
    · exact ⟨m, hs, .inr ⟨group, hgroup, hm, hn⟩⟩
  · rintro ⟨m, hs, rfl | ⟨group, hgroup, hm, hn⟩⟩
    · exact .inl hs
    · exact .inr ⟨group, ⟨hgroup, m, hm, hs⟩, hn⟩

theorem contains_shifted_iff {first last up down : Nat} (h : down ≤ first + up) :
    (s.shifted first last up down).contains n = true ↔
      ∃ m, s.contains m = true ∧ first ≤ m ∧ m ≤ last ∧ n = m + up - down := by
  unfold contains shifted CodeRange.inter
  simp only [List.any_map, List.any_flatMap, List.any_eq_true, Function.comp, CodeRange.contains_iff]
  constructor
  · rintro ⟨r, hr, q, hq, hqn⟩
    split at hq
    · obtain rfl := List.mem_singleton.mp hq
      dsimp only at hqn
      exact ⟨n + down - up, ⟨r, hr, by omega⟩, by omega⟩
    · cases hq
  · rintro ⟨m, ⟨r, hr, hm⟩, hfirst, hlast, rfl⟩
    refine ⟨r, hr, ⟨max r.first first, min r.last last⟩, ?_, ?_⟩
    · rw [if_pos (by omega)]
      exact List.mem_singleton_self _
    · dsimp only
      omega

theorem contains_foldAsciiCase_iff :
    s.foldAsciiCase.contains n = true ↔ ∃ m, s.contains m = true ∧ lowerAscii m = lowerAscii n := by
  have hup : ∀ n, (s.shifted 0x41 0x5A 0x20 0).contains n = true ↔ _ := fun n => contains_shifted_iff (by decide)
  have hdown : ∀ n, (s.shifted 0x61 0x7A 0 0x20).contains n = true ↔ _ := fun n => contains_shifted_iff (by decide)
  rw [foldAsciiCase, contains_unionAll]
  simp only [List.any_cons, List.any_nil, Bool.or_false, Bool.or_eq_true, hup, hdown]
  unfold lowerAscii
  constructor
  · rintro (h | ⟨m, hm, hfirst, hlast, rfl⟩ | ⟨m, hm, hfirst, hlast, rfl⟩)
    · exact ⟨n, h, rfl⟩
    · refine ⟨m, hm, ?_⟩
      split <;> split <;> omega
    · refine ⟨m, hm, ?_⟩
      split <;> split <;> omega
  · rintro ⟨m, hm, heq⟩
    by_cases hmn : m = n
    · subst hmn
      exact .inl hm
    · by_cases hupper : 0x41 ≤ m ∧ m ≤ 0x5A
      · rw [if_pos hupper] at heq
        refine .inr (.inl ⟨m, hm, hupper.1, hupper.2, ?_⟩)
        split at heq <;> omega
      · rw [if_neg hupper] at heq
        split at heq
        · exact .inr (.inr ⟨m, hm, by omega, by omega, by omega⟩)
        · exact absurd heq hmn

end CodeSet

end BuilderAudit
