import BuilderAudit.Pattern.Parser
import BuilderAudit.Proofs.Pattern.Meaning

/-!
# Counts in their order

The reader of counts refuses a least count above the greatest one (`counts_ordered`), and nothing else makes repetitions
with two counts. So every step keeps the repetitions that have been read in order (`Progress.step_ordered`), and those
of a whole pattern are (`parse_ordered`).
-/

namespace BuilderAudit.Pattern

/-! ## Readers -/

theorem numbered_ordered {spaced : Bool} {count : Nat} {cs rest : List Char} {a : Ast}
    (h : numbered spaced count cs = .ok (a, rest)) : a.Ordered := by
  have hliteral : ∀ {isByte n}, literalOfNumber isByte n = .ok a → a.Ordered := by
    intro isByte n h
    unfold literalOfNumber at h
    split at h
    · cases h
    · cases h
      trivial
  unfold numbered at h
  split at h
  · obtain ⟨⟨n, r⟩, _, h⟩ := bind_eq_ok_iff.mp h
    obtain ⟨l, hl, h⟩ := bind_eq_ok_iff.mp h
    cases h
    exact hliteral hl
  · obtain ⟨⟨n, r⟩, _, h⟩ := bind_eq_ok_iff.mp h
    obtain ⟨l, hl, h⟩ := bind_eq_ok_iff.mp h
    cases h
    exact hliteral hl

theorem propertyName_ordered {spaced negated : Bool} {cs rest : List Char} {a : Ast}
    (h : propertyName spaced negated cs = .ok (a, rest)) : a.Ordered := by
  unfold propertyName at h
  split at h
  · cases h
  · obtain ⟨⟨text, r⟩, _, h⟩ := bind_eq_ok_iff.mp h
    cases h
    trivial
  · split at h
    · cases h
    · cases h
      trivial

theorem wordBoundary_ordered {spaced : Bool} {cs rest : List Char} {a : Ast}
    (h : wordBoundary spaced cs = .ok (a, rest)) : a.Ordered := by
  unfold wordBoundary at h
  split at h
  · split at h
    · cases h
    · split at h
      · split at h
        · split at h
          · cases h
            trivial
          · cases h
        · cases h
      · cases h
        trivial
  · cases h
    trivial

theorem escape_ordered {spaced : Bool} {cs rest : List Char} {a : Ast} (h : escape spaced cs = .ok (a, rest)) :
    a.Ordered := by
  unfold escape at h
  split at h
  · cases h
  · split at h
    case h_1 => exact numbered_ordered h
    case h_2 => exact numbered_ordered h
    case h_3 => exact numbered_ordered h
    case h_4 => exact propertyName_ordered h
    case h_5 => exact propertyName_ordered h
    case h_20 => exact wordBoundary_ordered h
    case h_24 =>
      split at h
      · cases h
        trivial
      · cases h
    all_goals
      cases h
      trivial

theorem bracketed_ordered {spaced : Bool} {cs rest : List Char} {a : Ast} (h : bracketed spaced cs = .ok (a, rest)) :
    a.Ordered := by
  unfold bracketed at h
  generalize (openClass spaced cs).1 = cur at h
  generalize (openClass spaced cs).2 = cs at h
  generalize [] = outer at h
  fun_induction classBody spaced cur outer cs with
  | case1 => cases h
  | case4 =>
      cases h
      trivial
  | case9 => cases h
  | case2 _ _ _ _ _ _ _ _ ih => exact ih h
  | case3 _ _ _ _ _ _ ih => exact ih h
  | case5 _ _ _ _ _ _ ih => exact ih h
  | case6 _ _ _ _ _ ih => exact ih h
  | case7 _ _ _ _ _ ih => exact ih h
  | case8 _ _ _ _ _ ih => exact ih h
  | case10 _ _ _ _ _ _ _ _ _ _ _ _ _ _ ih => exact ih h

/-- Counts are refused unless they are in order. -/
theorem counts_ordered {spaced : Bool} {cs rest : List Char} {least : Nat} {greatest : Option Nat}
    (h : counts spaced cs = .ok ((least, greatest), rest)) : ∀ m ∈ greatest, least ≤ m := by
  obtain ⟨⟨n, r⟩, _, h⟩ := bind_eq_ok_iff.mp h
  obtain ⟨⟨m, u⟩, hm, h⟩ := bind_eq_ok_iff.mp h
  cases h
  unfold countsFrom at hm
  split at hm
  · cases hm
    rintro _ ⟨⟩
    exact Nat.le_refl least
  · split at hm
    · cases hm
      nofun
    · obtain ⟨⟨k, v⟩, _, hm⟩ := bind_eq_ok_iff.mp hm
      simp only at hm
      split at hm
      · split at hm
        · next hordered =>
          cases hm
          rintro _ ⟨⟩
          exact hordered
        · cases hm
      · cases hm
  · cases hm

/-! ## Steps -/

namespace Ast

theorem ordered_ofItems {items : List Ast} (h : ∀ a ∈ items, a.Ordered) : (ofItems items).Ordered := by
  induction items with
  | nil => trivial
  | cons item items ih =>
      obtain ⟨hitem, hitems⟩ := List.forall_mem_cons.mp h
      cases items with
      | nil => exact hitem
      | cons second items => exact ⟨hitem, ih hitems⟩

theorem ordered_ofBranches {last : Ast} {branches : List Ast} (hlast : last.Ordered) (h : ∀ a ∈ branches, a.Ordered) :
    (ofBranches last branches).Ordered := by
  induction branches with
  | nil => exact hlast
  | cons branch branches ih =>
      obtain ⟨hbranch, hbranches⟩ := List.forall_mem_cons.mp h
      exact ⟨hbranch, ih hbranches⟩

end Ast

namespace Progress

/-- Whatever has been read is in order. -/
structure Ordered (p : Progress) : Prop where
  items : ∀ a ∈ p.items, a.Ordered
  branches : ∀ a ∈ p.branches, a.Ordered
  groups : ∀ g ∈ p.groups, (∀ a ∈ g.items, a.Ordered) ∧ ∀ a ∈ g.branches, a.Ordered

variable {p q : Progress} {ast : Ast}

theorem Ordered.content (h : p.Ordered) : p.content.Ordered := by
  refine Ast.ordered_ofBranches (Ast.ordered_ofItems ?_) ?_
  · exact fun a ha => h.items a (List.mem_reverse.mp ha)
  · exact fun a ha => h.branches a (List.mem_reverse.mp ha)

theorem Ordered.add (h : p.Ordered) (hast : ast.Ordered) : (p.add ast).Ordered :=
  ⟨List.forall_mem_cons.mpr ⟨hast, h.items⟩, h.branches, h.groups⟩

theorem Ordered.branch (h : p.Ordered) : p.branch.Ordered := by
  refine ⟨nofun, List.forall_mem_cons.mpr ⟨Ast.ordered_ofItems ?_, h.branches⟩, h.groups⟩
  exact fun a ha => h.items a (List.mem_reverse.mp ha)

theorem Ordered.enter (h : p.Ordered) (change : FlagChange) (captures : Bool) : (p.enter change captures).Ordered :=
  ⟨nofun, nofun, List.forall_mem_cons.mpr ⟨⟨h.items, h.branches⟩, h.groups⟩⟩

theorem Ordered.begin {start : GroupStart} (h : p.Ordered) (hq : p.begin start = .ok q) : q.Ordered := by
  cases start with
  | flags change =>
      cases hq
      have hadd : (p.add (.flags change)).Ordered := h.add trivial
      exact ⟨hadd.items, hadd.branches, hadd.groups⟩
  | plain change =>
      cases hq
      exact h.enter change false
  | capture name =>
      have henter := h.enter [] true
      cases name with
      | none =>
          cases hq
          exact henter
      | some name =>
          rw [Progress.begin] at hq
          split at hq
          · cases hq
          · cases hq
            exact ⟨henter.items, henter.branches, henter.groups⟩

theorem Ordered.leave (h : p.Ordered) (hq : p.leave = .ok q) : q.Ordered := by
  have hcontent := h.content
  unfold Progress.leave at hq
  split at hq
  · cases hq
  · next g groups heq =>
    cases hq
    have hgroups := h.groups
    rw [heq] at hgroups
    obtain ⟨hg, hgroups⟩ := List.forall_mem_cons.mp hgroups
    exact ⟨List.forall_mem_cons.mpr ⟨hcontent, hg.1⟩, hg.2, hgroups⟩

theorem Ordered.repeated {least : Nat} {greatest : Option Nat} (h : p.Ordered) (hcounts : ∀ m ∈ greatest, least ≤ m)
    (hq : p.repeated least greatest = .ok q) : q.Ordered := by
  have hitems := h.items
  unfold Progress.repeated at hq
  split at hq
  · cases hq
  · cases hq
  · next item items _ heq =>
    cases hq
    rw [heq] at hitems
    obtain ⟨hitem, hitems⟩ := List.forall_mem_cons.mp hitems
    exact ⟨List.forall_mem_cons.mpr ⟨⟨hitem, hcounts⟩, hitems⟩, h.branches, h.groups⟩

theorem step_ordered {c : Char} {cs rest : List Char} (h : p.Ordered) (hstep : p.step c cs = .ok (q, rest)) :
    q.Ordered := by
  unfold step at hstep
  split at hstep
  · obtain ⟨⟨start, r⟩, _, hstep⟩ := bind_eq_ok_iff.mp hstep
    obtain ⟨q', hq, hstep⟩ := bind_eq_ok_iff.mp hstep
    cases hstep
    exact h.begin hq
  · obtain ⟨q', hq, hstep⟩ := bind_eq_ok_iff.mp hstep
    cases hstep
    exact h.leave hq
  · cases hstep
    exact h.branch
  · obtain ⟨⟨item, r⟩, hitem, hstep⟩ := bind_eq_ok_iff.mp hstep
    cases hstep
    exact h.add (bracketed_ordered hitem)
  · obtain ⟨q', hq, hstep⟩ := bind_eq_ok_iff.mp hstep
    cases hstep
    exact h.repeated (fun m _ => Nat.zero_le m) hq
  · obtain ⟨q', hq, hstep⟩ := bind_eq_ok_iff.mp hstep
    cases hstep
    exact h.repeated (fun m _ => Nat.zero_le m) hq
  · obtain ⟨q', hq, hstep⟩ := bind_eq_ok_iff.mp hstep
    cases hstep
    have hunbounded : ∀ m ∈ (none : Option Nat), 1 ≤ m := nofun
    exact h.repeated hunbounded hq
  · obtain ⟨⟨⟨least, greatest⟩, r⟩, hcounts, hstep⟩ := bind_eq_ok_iff.mp hstep
    obtain ⟨q', hq, hstep⟩ := bind_eq_ok_iff.mp hstep
    cases hstep
    exact h.repeated (counts_ordered hcounts) hq
  · obtain ⟨⟨item, r⟩, hitem, hstep⟩ := bind_eq_ok_iff.mp hstep
    cases hstep
    exact h.add (escape_ordered hitem)
  all_goals
    cases hstep
    exact h.add trivial

/-! ## Runs -/

theorem run_ordered {cs : List Char} (h : p.Ordered) (hrun : p.run cs = .ok ast) : ast.Ordered := by
  fun_induction run p cs with
  | case1 p cs _ =>
      unfold finish at hrun
      split at hrun
      · cases hrun
        exact h.content
      · cases hrun
  | case2 => cases hrun
  | case3 p cs c rest _ q r hstep ih => exact ih (step_ordered h hstep) hrun

end Progress

theorem parse_ordered {text : List Char} {ast : Ast} (h : parse text = .ok ast) : ast.Ordered := by
  have hstart : Progress.start.Ordered := ⟨nofun, nofun, nofun⟩
  obtain ⟨ast', hrun, h⟩ := bind_eq_ok_iff.mp h
  split at h
  · cases h
    exact Progress.run_ordered hstart hrun
  · cases h

end BuilderAudit.Pattern
