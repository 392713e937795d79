import BuilderAudit.Pattern.Matcher
import BuilderAudit.Proofs.Pattern.Span

/-!
# The marks keep track of all matches

A marked expression stands for the texts that it matches (`Marked.Matches`) and, for the matches in progress, for the
texts that bring one of them to its end (`Marked.Completes`). Both are read off the marks at the empty text
(`Marked.skips_iff`, `Marked.ends_iff`), and a shift of the marks takes one character off the texts
(`Marked.completes_shift`). So a text is searched for matches wherever they begin (`Marked.occursFrom_iff`).

* `Expr.matches_marked` : writing out the repetitions keeps the meaning;
* `Expr.occursIn_marked` : the matcher finds what `Expr.Matches` says.
-/

namespace BuilderAudit.Pattern

namespace Marked

/-- What the expression matches, whatever its marks are. -/
def Matches : Marked → Span
  | empty => Span.nothing
  | look l => Span.place fun before after => l.holds before.head? after.head? = true
  | chars set _ => Span.oneOf (set.containsChar · = true)
  | seq e f => e.Matches.andThen f.Matches
  | alt e f => e.Matches.either f.Matches
  | star e => e.Matches.repeated 0 none

/-- What brings a match in progress to its end. -/
def Completes : Marked → Span
  | empty | look _ => fun _ _ _ => False
  | chars _ mark => Span.place fun _ _ => mark = true
  | seq e f => (e.Completes.andThen f.Matches).either f.Completes
  | alt e f => e.Completes.either f.Completes
  | star e => e.Completes.andThen (e.Matches.repeated 0 none)

variable {before text after : List Char} {c : Char} {m : Marked}

/-! ## What the marks say about a place -/

theorem skips_iff (m : Marked) (before after : List Char) :
    m.skips before.head? after.head? = true ↔ m.Matches before [] after := by
  induction m with
  | empty => exact ⟨fun _ => rfl, fun _ => rfl⟩
  | look l => exact ⟨fun h => ⟨rfl, h⟩, And.right⟩
  | chars set mark =>
      constructor
      · intro h
        cases h
      · rintro ⟨c, hc, _⟩
        cases hc
  | seq e f ihe ihf =>
      rw [skips, Bool.and_eq_true, ihe, ihf]
      exact Span.andThen_nil.symm
  | alt e f ihe ihf =>
      rw [skips, Bool.or_eq_true, ihe, ihf]
      rfl
  | star e _ => exact ⟨fun _ => Span.repeated_nil, fun _ => rfl⟩

theorem ends_iff (m : Marked) (before after : List Char) :
    m.ends before.head? after.head? = true ↔ m.Completes before [] after := by
  induction m with
  | empty => exact ⟨nofun, nofun⟩
  | look l => exact ⟨nofun, nofun⟩
  | chars set mark => exact ⟨fun h => ⟨rfl, h⟩, And.right⟩
  | seq e f ihe ihf =>
      rw [ends, Bool.or_eq_true, Bool.and_eq_true, ihe, ihf, skips_iff]
      exact or_congr_left Span.andThen_nil.symm
  | alt e f ihe ihf =>
      rw [ends, Bool.or_eq_true, ihe, ihf]
      rfl
  | star e ih =>
      rw [ends, ih]
      constructor
      · intro h
        exact Span.andThen_nil.mpr ⟨h, Span.repeated_nil⟩
      · intro h
        exact (Span.andThen_nil.mp h).1

/-! ## Reading a character -/

theorem matches_shift (m : Marked) (prev : Option Char) (c : Char) (enter : Bool) :
    (m.shift prev c enter).Matches = m.Matches := by
  induction m generalizing enter with
  | empty | look | chars => rfl
  | seq e f ihe ihf =>
      rw [shift, Matches, Matches, ihe, ihf]
  | alt e f ihe ihf =>
      rw [shift, Matches, Matches, ihe, ihf]
  | star e ih =>
      rw [shift, Matches, Matches, ih]

/-- What ends a match after a character `c` is what ends it before that character, or what the whole expression matches
from there if a match may begin. -/
theorem completes_shift (m : Marked) (before : List Char) (c : Char) (enter : Bool) (text after : List Char) :
    (m.shift before.head? c enter).Completes (c :: before) text after ↔
      (enter = true ∧ m.Matches before (c :: text) after) ∨ m.Completes before (c :: text) after := by
  induction m generalizing enter text after with
  | empty =>
      constructor
      · nofun
      · rintro (⟨_, h⟩ | h)
        · cases h
        · exact h
  | look l =>
      constructor
      · nofun
      · rintro (⟨_, h, _⟩ | h)
        · cases h
        · exact h
  | chars set mark =>
      constructor
      · rintro ⟨rfl, h⟩
        obtain ⟨henter, hc⟩ := Bool.and_eq_true_iff.mp h
        exact .inl ⟨henter, c, rfl, hc⟩
      · rintro (⟨henter, d, hd, hc⟩ | ⟨h, _⟩)
        · cases hd
          exact ⟨rfl, Bool.and_eq_true_iff.mpr ⟨henter, hc⟩⟩
        · cases h
  | alt e f ihe ihf =>
      have he := ihe enter text after
      have hf := ihf enter text after
      show _ ∨ _ ↔ _ ∧ (_ ∨ _) ∨ _ ∨ _
      rw [he, hf, and_or_left]
      exact or_or_or_comm
  | seq e f ihe ihf =>
      have hentered : ((enter && e.skips before.head? (some c)) || e.ends before.head? (some c)) = true ↔
          (enter = true ∧ e.Matches before [] (c :: text ++ after)) ∨ e.Completes before [] (c :: text ++ after) := by
        rw [Bool.or_eq_true, Bool.and_eq_true, ← skips_iff, ← ends_iff]
        rfl
      have hf := ihf ((enter && e.skips before.head? (some c)) || e.ends before.head? (some c)) text after
      rw [hentered] at hf
      show (∃ u v, _ ∧ _ ∧ _) ∨ _ ↔ _
      rw [hf, matches_shift]
      simp only [ihe, Matches, Completes, Span.either, Span.andThen_cons]
      constructor
      · rintro (⟨u, v, huv, ⟨henter, hu⟩ | hu, hv⟩ | ⟨⟨henter, hu⟩ | hu, hv⟩ | hv)
        · exact .inl ⟨henter, .inr ⟨u, v, huv, hu, hv⟩⟩
        · exact .inr (.inl (.inr ⟨u, v, huv, hu, hv⟩))
        · exact .inl ⟨henter, .inl ⟨hu, hv⟩⟩
        · exact .inr (.inl (.inl ⟨hu, hv⟩))
        · exact .inr (.inr hv)
      · rintro (⟨henter, ⟨hu, hv⟩ | ⟨u, v, huv, hu, hv⟩⟩ | (⟨hu, hv⟩ | ⟨u, v, huv, hu, hv⟩) | hv)
        · exact .inr (.inl ⟨.inl ⟨henter, hu⟩, hv⟩)
        · exact .inl ⟨u, v, huv, .inl ⟨henter, hu⟩, hv⟩
        · exact .inr (.inl ⟨.inr hu, hv⟩)
        · exact .inl ⟨u, v, huv, .inr hu, hv⟩
        · exact .inr (.inr hv)
  | star e ih =>
      have hentered : (enter || e.ends before.head? (some c)) = true ↔
          enter = true ∨ e.Completes before [] (c :: text ++ after) := by
        rw [Bool.or_eq_true, ← ends_iff]
        rfl
      show (∃ u v, _ ∧ _ ∧ _) ↔ _
      rw [matches_shift]
      simp only [ih, hentered, Matches, Completes, Span.andThen_cons, Span.repeated_cons]
      constructor
      · rintro ⟨u, v, huv, ⟨henter | hend, hu⟩ | hu, hv⟩
        · exact .inl ⟨henter, u, v, huv, hu, hv⟩
        · exact .inr (.inl ⟨hend, u, v, huv, hu, hv⟩)
        · exact .inr (.inr ⟨u, v, huv, hu, hv⟩)
      · rintro (⟨henter, u, v, huv, hu, hv⟩ | ⟨hend, u, v, huv, hu, hv⟩ | ⟨u, v, huv, hu, hv⟩)
        · exact ⟨u, v, huv, .inl ⟨.inl henter, hu⟩, hv⟩
        · exact ⟨u, v, huv, .inl ⟨.inr hend, hu⟩, hv⟩
        · exact ⟨u, v, huv, .inr hu, hv⟩

/-! ## Searching a text -/

/-- The marks find the matches that begin in the text, and those that end in it. -/
theorem occursFrom_iff (m : Marked) (before text : List Char) :
    m.occursFrom before.head? text = true ↔
      Span.anything.andThen (m.Matches.andThen Span.anything) before text [] ∨
        m.Completes.andThen Span.anything before text [] := by
  induction text generalizing m before with
  | nil =>
      have hskips : m.skips before.head? none = true ↔ _ := skips_iff m before []
      have hends : m.ends before.head? none = true ↔ _ := ends_iff m before []
      rw [occursFrom, Bool.or_eq_true, hskips, hends]
      simp only [Span.andThen_nil, Span.anything, true_and, and_true]
  | cons c text ih =>
      have hskips : m.skips before.head? (some c) = true ↔ _ := skips_iff m before (c :: text)
      have hends : m.ends before.head? (some c) = true ↔ _ := ends_iff m before (c :: text)
      have hrest : (m.shift before.head? c true).occursFrom (some c) text = true ↔ _ :=
        ih (m.shift before.head? c true) (c :: before)
      have hshift : (m.shift before.head? c true).Completes.andThen Span.anything (c :: before) text [] ↔
          (∃ u v, text = u ++ v ∧ m.Matches before (c :: u) (v ++ [])) ∨
            ∃ u v, text = u ++ v ∧ m.Completes before (c :: u) (v ++ []) := by
        simp only [Span.andThen_anything, completes_shift, true_and, and_or_left, exists_or]
      rw [occursFrom, Bool.or_eq_true, Bool.or_eq_true, hskips, hends, hrest, matches_shift, hshift]
      simp only [Span.andThen_cons, Span.anything_andThen, Span.anything, true_and, and_true, List.append_nil]
      simp only [or_assoc, or_comm, or_left_comm]

/-! ## Repetitions written out -/

theorem matches_copies (m : Marked) (n : Nat) : (m.copies n).Matches = m.Matches.times n := by
  fun_induction copies m n with
  | case1 => rfl
  | case2 => exact (Span.times_one m.Matches).symm
  | case3 n _ _ ih ih' =>
      rw [Matches, ih, ih', ← Span.times_add, Nat.add_sub_cancel' (Nat.div_le_self n 2)]

theorem matches_repeated {min : Nat} {max : Option Nat} (h : ∀ k ∈ max, min ≤ k) :
    (m.repeated min max).Matches = m.Matches.repeated min max := by
  rw [Span.repeated_eq h]
  cases max with
  | none =>
      rw [repeated]
      split
      · next hmin =>
        subst hmin
        exact (Span.nothing_andThen _).symm
      · rw [Matches, matches_copies]
        rfl
  | some max =>
      show _ = (m.Matches.times min).andThen (m.Matches.repeated 0 (some (max - min)))
      rw [← Span.times_either_nothing, repeated]
      split
      · next hmax =>
        rw [Nat.sub_eq_zero_of_le hmax, matches_copies]
        exact (Span.andThen_nothing _).symm
      · rw [Matches, matches_copies, matches_copies]
        rfl

def Idle (m : Marked) : Prop := ∀ before text after, ¬ m.Completes before text after

variable {e f : Marked}

theorem Idle.seq (he : e.Idle) (hf : f.Idle) : (seq e f).Idle := by
  rintro before text after (⟨u, v, _, h, _⟩ | h)
  · exact he _ _ _ h
  · exact hf _ _ _ h

theorem Idle.alt (he : e.Idle) (hf : f.Idle) : (alt e f).Idle := by
  rintro before text after (h | h)
  · exact he _ _ _ h
  · exact hf _ _ _ h

theorem Idle.star (he : e.Idle) : (star e).Idle := by
  rintro before text after ⟨u, v, _, h, _⟩
  exact he _ _ _ h

theorem Idle.copies (he : e.Idle) (n : Nat) : (e.copies n).Idle := by
  fun_induction Marked.copies e n with
  | case1 => exact fun _ _ _ => id
  | case2 => exact he
  | case3 _ _ _ ih ih' => exact ih.seq ih'

theorem Idle.repeated (he : e.Idle) (min : Nat) (max : Option Nat) : (e.repeated min max).Idle := by
  have hempty : Marked.empty.Idle := fun _ _ _ => id
  cases max with
  | none =>
      rw [Marked.repeated]
      split
      · exact he.star
      · exact (he.copies min).seq he.star
  | some max =>
      rw [Marked.repeated]
      split
      · exact he.copies min
      · exact (he.copies min).seq ((he.alt hempty).copies (max - min))

end Marked

/-! ## Expressions by their marks -/

namespace Expr

/-- The least count of every repetition is at most its greatest one. -/
def Ordered : Expr → Prop
  | empty | chars _ | look _ => True
  | seq e f | alt e f => e.Ordered ∧ f.Ordered
  | repetition e min max => e.Ordered ∧ ∀ m ∈ max, min ≤ m
  | capture e => e.Ordered

theorem idle_marked (e : Expr) : e.marked.Idle := by
  induction e with
  | empty => exact fun _ _ _ => id
  | chars set =>
      rintro before text after ⟨_, h⟩
      cases h
  | look l => exact fun _ _ _ => id
  | seq e f ihe ihf => exact ihe.seq ihf
  | alt e f ihe ihf => exact ihe.alt ihf
  | repetition e min max ih => exact ih.repeated _ _
  | capture e ih => exact ih

theorem widthless_of_isWidthless {e : Expr} (h : e.isWidthless = true) : Span.Widthless e.Matches := by
  induction e with
  | empty =>
      rw [matches_empty]
      exact fun _ _ _ => id
  | chars set => cases h
  | look l =>
      rw [matches_look]
      exact fun _ _ _ => And.left
  | seq e f ihe ihf =>
      obtain ⟨he, hf⟩ := Bool.and_eq_true_iff.mp h
      rw [matches_seq]
      exact (ihe he).andThen (ihf hf)
  | alt e f ihe ihf =>
      obtain ⟨he, hf⟩ := Bool.and_eq_true_iff.mp h
      rw [matches_alt]
      rintro before text after (h | h)
      · exact ihe he _ _ _ h
      · exact ihf hf _ _ _ h
  | repetition e min max ih =>
      rw [matches_repetition]
      rintro before text after ⟨n, _, hmax, hn⟩
      rcases Bool.or_eq_true_iff.mp h with he | hzero
      · exact (ih he).times n _ _ _ hn
      · obtain rfl := eq_of_beq hzero
        obtain rfl := Nat.le_zero.mp (hmax 0 rfl)
        exact hn
  | capture e ih =>
      rw [matches_capture]
      exact ih h

/-- What has no width is matched as often by its useful counts as by those that were written. -/
theorem repeated_usefulCounts {e : Expr} {min : Nat} {max : Option Nat} (h : ∀ m ∈ max, min ≤ m) :
    (∀ m ∈ (e.usefulCounts min max).2, (e.usefulCounts min max).1 ≤ m) ∧
      Span.repeated e.Matches (e.usefulCounts min max).1 (e.usefulCounts min max).2 =
        Span.repeated e.Matches min max := by
  unfold usefulCounts
  split
  · next hwidthless =>
    have hwidthless := widthless_of_isWidthless hwidthless
    cases min with
    | zero =>
        refine ⟨fun m _ => Nat.zero_le m, ?_⟩
        show Span.repeated e.Matches 0 _ = _
        rw [hwidthless.repeated_zero, hwidthless.repeated_zero]
    | succ min =>
        have hone : 1 ≤ max.getD 1 := by
          cases max with
          | none => exact Nat.le_refl 1
          | some m => exact Nat.le_trans (Nat.le_add_left 1 min) (h m rfl)
        have huseful : Nat.min (min + 1) 1 = 1 := Nat.min_eq_right (Nat.le_add_left 1 min)
        have hmax : ∀ m ∈ some (Nat.min (max.getD 1) 1), 1 ≤ m := by
          rintro _ ⟨⟩
          exact Nat.le_min.mpr ⟨hone, Nat.le_refl 1⟩
        simp only [huseful]
        exact ⟨hmax, (hwidthless.repeated_succ hmax).trans (hwidthless.repeated_succ h).symm⟩
  · exact ⟨h, rfl⟩

/-- Written out, an expression matches what it matched before. -/
theorem matches_marked {e : Expr} (h : e.Ordered) : e.marked.Matches = e.Matches := by
  induction e with
  | empty => exact matches_empty.symm
  | chars set => exact (matches_chars set).symm
  | look l => exact (matches_look l).symm
  | seq e f ihe ihf =>
      rw [marked, Marked.Matches, ihe h.1, ihf h.2, matches_seq]
  | alt e f ihe ihf =>
      rw [marked, Marked.Matches, ihe h.1, ihf h.2, matches_alt]
  | repetition e min max ih =>
      obtain ⟨hordered, heq⟩ := repeated_usefulCounts (e := e) h.2
      show (e.marked.repeated (e.usefulCounts min max).1 (e.usefulCounts min max).2).Matches = _
      rw [Marked.matches_repeated hordered, ih h.1, heq, matches_repetition]
  | capture e ih =>
      rw [marked, ih h, matches_capture]

/-- **The matcher finds what the expression matches**, wherever it stands in the text. -/
theorem occursIn_marked {e : Expr} (h : e.Ordered) (text : List Char) :
    e.marked.occursIn text = true ↔ ∃ u v w, text = u ++ (v ++ w) ∧ e.Matches u.reverse v w := by
  have hoccurs := Marked.occursFrom_iff e.marked [] text
  rw [matches_marked h] at hoccurs
  show e.marked.occursFrom ([] : List Char).head? text = true ↔ _
  rw [hoccurs]
  simp only [Span.anything_andThen, Span.andThen_anything, List.append_nil]
  constructor
  · rintro (⟨u, _, rfl, v, w, rfl, hmatch⟩ | ⟨u, w, _, hcompletes⟩)
    · exact ⟨u, v, w, rfl, hmatch⟩
    · exact absurd hcompletes (e.idle_marked _ _ _)
  · rintro ⟨u, v, w, rfl, hmatch⟩
    exact .inl ⟨u, v ++ w, rfl, v, w, rfl, hmatch⟩

end Expr

end BuilderAudit.Pattern
