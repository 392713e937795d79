import BuilderAudit.Text.Basic
import Mathlib.Data.List.Basic
import Mathlib.Data.List.DropRight
import Mathlib.Data.List.TakeWhile

/-!
# Texts without the white space around them

A text is either white space only, or a core with white space around it. The core begins and ends with something else,
and it is what `trim` leaves.

* `Blanks` : white space only;
* `Solid` : texts with no white space at their ends;
* `blanks_or_padded` : every text is one or the other (`trim_of_blanks`, `trim_padded`);
* `stripStart?_eq_some_iff` : what is behind a given start of a text.
-/

namespace BuilderAudit.Text

variable {cs before core behind : List Char} {c : Char}

/-! ## White space only -/

def Blanks (cs : List Char) : Prop := ∀ c ∈ cs, isBlank c = true

instance (cs : List Char) : Decidable (Blanks cs) := List.decidableBAll (isBlank · = true) cs

theorem Blanks.nil : Blanks [] := by
  intro c hc
  cases hc

theorem Blanks.cons (hc : isBlank c = true) (h : Blanks cs) : Blanks (c :: cs) := List.forall_mem_cons.mpr ⟨hc, h⟩

theorem Blanks.append (h : Blanks before) (h' : Blanks behind) : Blanks (before ++ behind) :=
  List.forall_mem_append.mpr ⟨h, h'⟩

theorem trimStart_eq_nil_iff : trimStart cs = [] ↔ Blanks cs := List.dropWhile_eq_nil_iff

theorem trimEnd_eq_nil_iff : trimEnd cs = [] ↔ Blanks cs := List.rdropWhile_eq_nil_iff

theorem trim_of_blanks (h : Blanks cs) : trim cs = [] := by
  rw [trim, trimStart_eq_nil_iff.mpr h]
  rfl

/-- White space in front of a text makes no difference. -/
theorem trimStart_append (h : Blanks before) (cs : List Char) : trimStart (before ++ cs) = trimStart cs :=
  List.dropWhile_append_of_pos h

/-- White space behind a text makes no difference. -/
theorem trimEnd_append (h : Blanks behind) (cs : List Char) : trimEnd (cs ++ behind) = trimEnd cs := by
  have hreverse : ∀ c ∈ behind.reverse, isBlank c = true := fun c hc => h c (List.mem_reverse.mp hc)
  rw [trimEnd, List.reverse_append, List.dropWhile_append_of_pos hreverse, trimEnd]

/-! ## Texts with no white space at their ends -/

/-- The text begins and ends with something other than white space. -/
structure Solid (cs : List Char) : Prop where
  ne_nil : cs ≠ []
  head : ∀ c, cs.head? = some c → isBlank c = false
  last : ∀ c, cs.getLast? = some c → isBlank c = false

theorem trimStart_of_head (h : ∀ c, cs.head? = some c → isBlank c = false) : trimStart cs = cs := by
  cases cs with
  | nil => rfl
  | cons c cs =>
      have hc : isBlank c = false := h c rfl
      rw [trimStart, List.dropWhile_cons, hc]
      rfl

theorem trimEnd_of_last (h : ∀ c, cs.getLast? = some c → isBlank c = false) : trimEnd cs = cs := by
  have hreverse : trimStart cs.reverse = cs.reverse := trimStart_of_head (by simpa using h)
  rw [trimEnd, ← trimStart, hreverse, List.reverse_reverse]

theorem Solid.trim_eq (h : Solid cs) : trim cs = cs := by
  rw [trim, trimStart_of_head h.head, trimEnd_of_last h.last]

/-- What is left of a text is what the white space stands around. -/
theorem trim_padded (hbefore : Blanks before) (hcore : Solid core) (hbehind : Blanks behind) :
    trim (before ++ (core ++ behind)) = core := by
  have hhead : ∀ c, (core ++ behind).head? = some c → isBlank c = false := by
    intro c hc
    rw [List.head?_append_of_ne_nil _ hcore.ne_nil] at hc
    exact hcore.head c hc
  rw [trim, trimStart_append hbefore, trimStart_of_head hhead, trimEnd_append hbehind, trimEnd_of_last hcore.last]

/-- **A text is white space only, or a core with white space around it.** -/
theorem blanks_or_padded (cs : List Char) :
    Blanks cs ∨ ∃ before core behind, cs = before ++ (core ++ behind) ∧ Blanks before ∧ Solid core ∧ Blanks behind := by
  induction cs with
  | nil => exact Or.inl .nil
  | cons c cs ih =>
      cases hc : isBlank c with
      | true =>
          rcases ih with hblanks | ⟨before, core, behind, rfl, hbefore, hcore, hbehind⟩
          · exact Or.inl (hblanks.cons hc)
          · exact Or.inr ⟨c :: before, core, behind, rfl, hbefore.cons hc, hcore, hbehind⟩
      | false =>
          right
          rcases ih with hblanks | ⟨before, core, behind, rfl, hbefore, hcore, hbehind⟩
          · exact ⟨[], [c], cs, rfl, .nil, ⟨by simp, by simpa using hc, by simpa using hc⟩, hblanks⟩
          · -- the white space that was in front of the core is now within it
            refine ⟨[], c :: (before ++ core), behind, by simp, .nil, ⟨by simp, by simpa using hc, ?_⟩, hbehind⟩
            intro d hd
            rw [← List.cons_append, List.getLast?_append_of_ne_nil _ hcore.ne_nil] at hd
            exact hcore.last d hd

theorem mem_of_mem_trim (h : c ∈ trim cs) : c ∈ cs := by
  have hstart : trimStart cs <:+ cs := List.dropWhile_suffix isBlank
  have hend : trim cs <+: trimStart cs := List.rdropWhile_prefix isBlank _
  exact hstart.mem (hend.mem h)

theorem trim_ne_nil (h : ¬ Blanks cs) : trim cs ≠ [] := by
  obtain ⟨before, core, behind, rfl, hbefore, hcore, hbehind⟩ := (blanks_or_padded cs).resolve_left h
  rw [trim_padded hbefore hcore hbehind]
  exact hcore.ne_nil

/-! ## White space up to a character -/

theorem trimStart_trimStart (cs : List Char) : trimStart (trimStart cs) = trimStart cs := by
  refine trimStart_of_head fun c hc => ?_
  have hhead := List.head?_dropWhile_not isBlank cs
  rw [show (cs.dropWhile isBlank).head? = some c from hc] at hhead
  exact hhead

theorem trimStart_append_cons (hc : isBlank c = false) (front back : List Char) :
    trimStart (front ++ c :: back) = trimStart front ++ c :: back := by
  rw [trimStart, List.dropWhile_append]
  cases hfront : front.dropWhile isBlank with
  | nil => simp [trimStart, hfront, hc]
  | cons d rest => simp [trimStart, hfront]

theorem trimEnd_append_cons (hc : isBlank c = false) (front back : List Char) :
    trimEnd (front ++ c :: back) = front ++ c :: trimEnd back := by
  have hreverse := trimStart_append_cons hc back.reverse front.reverse
  rw [trimStart] at hreverse
  rw [trimEnd, List.reverse_append, List.reverse_cons, List.append_assoc, List.singleton_append, hreverse, trimEnd]
  simp [trimStart]

/-! ## Texts with a given start -/

theorem stripStart?_append (start cs : List Char) : stripStart? start (start ++ cs) = some cs := by
  rw [stripStart?, if_pos (List.isPrefixOf_iff_prefix.mpr (List.prefix_append start cs)), List.drop_left]

theorem stripStart?_eq_some_iff {start rest : List Char} : stripStart? start cs = some rest ↔ cs = start ++ rest := by
  constructor
  · intro h
    rw [stripStart?] at h
    split at h
    · next hstart =>
        obtain ⟨more, rfl⟩ := List.isPrefixOf_iff_prefix.mp hstart
        rw [List.drop_left, Option.some.injEq] at h
        rw [h]
    · cases h
  · rintro rfl
    exact stripStart?_append start rest

end BuilderAudit.Text
