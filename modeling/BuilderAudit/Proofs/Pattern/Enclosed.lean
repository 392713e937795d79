import BuilderAudit.Pattern.Parser
import BuilderAudit.Proofs.Pattern.ClosedClass

/-!
# Patterns inside a group

A pattern that is read inside a group is read as it would be by itself, step by step: the group around it only stands
below all others on the list of open groups (`Progress.inside`). When the pattern ends, the parenthesis behind it closes
that group. It does so unless the pattern ends in a comment, which takes the parenthesis for its own; then the group is
never closed.

* `Progress.step_inside`, `Progress.step_steady` : one step inside a group, and with a parenthesis behind the text;
* `Progress.run_closed` : what becomes of the parenthesis behind a pattern.
-/

namespace BuilderAudit.Pattern

variable {lost : Prop} {c : Char} {cs cs' : List Char}

/-! ## Counts -/

theorem digitsFrom_closed (spaced : Bool) (value : Option Nat) (hc : Closed lost cs cs') :
    SameResult lost (digitsFrom spaced value cs) (digitsFrom spaced value cs') := by
  fun_induction digitsFrom spaced value cs generalizing cs' with
  | case1 =>
      cases hc with
      | nil hlost =>
          rw [digitsFrom]
          exact ⟨rfl, .nil hlost⟩
      | paren =>
          rw [digitsFrom, if_neg (by decide)]
          exact ⟨rfl, .paren⟩
  | case2 value c cs hdigit ih =>
      cases hc with
      | cons sign hc =>
          rw [digitsFrom, if_pos hdigit]
          exact ih (hc.skipBlanks spaced)
  | case3 value c cs hdigit =>
      cases hc with
      | cons sign hc =>
          rw [digitsFrom, if_neg hdigit]
          exact ⟨rfl, .cons sign hc⟩

theorem Closed.dropBlanks (hc : Closed lost cs cs') : Closed lost (cs.dropWhile isBlank) (cs'.dropWhile isBlank) :=
  hc.dropWhile isBlank fun hparen => absurd hparen (by decide)

theorem count_steady (spaced : Bool) : (count spaced).Steady := by
  intro lost cs cs' n rest hc h
  obtain ⟨hvalue, hrest⟩ := digitsFrom_closed spaced none hc.dropBlanks
  unfold count at h ⊢
  generalize digitsFrom spaced none (cs.dropWhile isBlank) = x at h hvalue hrest
  generalize digitsFrom spaced none (cs'.dropWhile isBlank) = x' at hvalue hrest ⊢
  obtain ⟨value, r⟩ := x
  obtain ⟨value', r'⟩ := x'
  obtain rfl : value' = value := hvalue
  cases value' with
  | none => cases h
  | some m =>
      simp only at h ⊢
      split at h
      · next hsmall =>
        cases h
        rw [if_pos hsmall]
        exact ⟨_, rfl, hrest.dropBlanks⟩
      · cases h

theorem dropLazy_closed (hc : Closed lost cs cs') : Closed lost (dropLazy cs) (dropLazy cs') := by
  cases hc with
  | nil hlost => exact .nil hlost
  | paren => exact .paren
  | @cons c _ _ sign hc =>
      by_cases hlazy : c = '?'
      · subst hlazy
        exact hc
      · have hgreedy : ∀ u, dropLazy (c :: u) = c :: u := by
          intro u
          rw [dropLazy]
          rintro _ ⟨⟩
          exact hlazy rfl
        rw [hgreedy, hgreedy]
        exact .cons sign hc

theorem countsFrom_steady (spaced : Bool) (least : Nat) : (countsFrom spaced least).Steady := by
  intro lost cs cs' m rest hc h
  unfold countsFrom at h
  split at h
  · obtain ⟨r', rfl, hr⟩ := hc.cons_of
    cases h
    exact ⟨r', rfl, hr⟩
  · obtain ⟨r', rfl, hr⟩ := hc.cons_of
    have hs := hr.skipBlanks spaced
    rw [countsFrom]
    generalize skipBlanks spaced _ = t at h hs
    generalize skipBlanks spaced r' = t' at hs ⊢
    split at h
    · obtain ⟨u', rfl, hu⟩ := hs.cons_of
      cases h
      exact ⟨u', rfl, hu⟩
    · next hbounded =>
      have hbounded := hs.not_cons (by decide) hbounded
      simp only
      refine Reader.Steady.bind (count_steady spaced) ?_ hs h
      intro greatest lost cs cs' m rest hc h
      simp only at h ⊢
      split at h
      · obtain ⟨u', rfl, hu⟩ := hc.cons_of
        simp only at h ⊢
        split at h
        · next hordered =>
          cases h
          rw [if_pos hordered]
          exact ⟨u', rfl, hu⟩
        · cases h
      · cases h
  · cases h

theorem counts_steady (spaced : Bool) : (counts spaced).Steady := by
  intro lost cs cs' m rest hc h
  refine Reader.Steady.bind (count_steady spaced) ?_ (hc.skipBlanks spaced) h
  intro least lost cs cs' m rest hc h
  refine Reader.Steady.bind (countsFrom_steady spaced least) ?_ hc h
  intro greatest
  exact Reader.steady_return (.ok (least, greatest)) fun hc => dropLazy_closed (hc.skipBlanks spaced)

/-! ## Groups -/

theorem groupName_steady : groupName.Steady := by
  intro lost cs cs' name rest hc h
  simp only [groupName] at h ⊢
  split at h
  · next hrest hname =>
    obtain ⟨hname', r', hrest', hr⟩ := hc.dropWhile_cons hrest
    rw [hname', hname, hrest']
    simp only
    split at h
    · next hvalid =>
      cases h
      rw [if_pos hvalid, hname]
      exact ⟨r', rfl, hr⟩
    · cases h
  · cases h

theorem flagsFrom_steady (change : FlagChange) (negated afterHyphen : Bool) :
    (flagsFrom change negated afterHyphen).Steady := by
  intro lost cs cs' a rest hc h
  fun_induction flagsFrom change negated afterHyphen cs generalizing cs' with
  | case1 => cases h
  | case2 => cases h
  | case3 change negated afterHyphen c cs hend hafter =>
      obtain ⟨r', rfl, hr⟩ := hc.cons_of
      cases h
      rw [flagsFrom, if_pos hend, if_neg hafter]
      exact ⟨r', rfl, hr⟩
  | case4 => cases h
  | case5 change negated afterHyphen c cs hend hhyphen hnegated ih =>
      obtain ⟨r', rfl, hr⟩ := hc.cons_of
      rw [flagsFrom, if_neg hend, if_pos hhyphen, if_neg hnegated]
      exact ih hr h
  | case6 => cases h
  | case7 => cases h
  | case8 change negated afterHyphen c cs hend hhyphen flag hflag hset ih =>
      obtain ⟨r', rfl, hr⟩ := hc.cons_of
      rw [flagsFrom, if_neg hend, if_neg hhyphen, hflag]
      simp only [if_neg hset]
      exact ih hr h

theorem groupStart_steady (spaced : Bool) : (groupStart spaced).Steady := by
  intro lost cs cs' a rest hc h
  have hs := hc.skipBlanks spaced
  unfold groupStart at h ⊢
  generalize skipBlanks spaced cs = t at h hs
  generalize skipBlanks spaced cs' = t' at hs ⊢
  split at h
  · cases h
  · cases h
  · cases h
  · cases h
  · obtain ⟨_, rfl, hs₁⟩ := hs.cons_of
    obtain ⟨_, rfl, hs₂⟩ := hs₁.cons_of
    obtain ⟨r', rfl, hr⟩ := hs₂.cons_of
    refine Reader.Steady.bind groupName_steady ?_ hr h
    exact fun name => Reader.steady_return (.ok (GroupStart.capture (some name))) id
  · next hahead hbehind =>
    obtain ⟨_, rfl, hs₁⟩ := hs.cons_of
    obtain ⟨r', rfl, hr⟩ := hs₁.cons_of
    have hahead := hr.not_cons (by decide) hahead
    have hbehind := hr.not_cons (by decide) hbehind
    simp only
    refine Reader.Steady.bind groupName_steady ?_ hr h
    exact fun name => Reader.steady_return (.ok (GroupStart.capture (some name))) id
  · next hahead hnotAhead hbehind hnotBehind hnamed hname =>
    obtain ⟨r', rfl, hr⟩ := hs.cons_of
    have hahead := hr.not_cons (by decide) hahead
    have hnotAhead := hr.not_cons (by decide) hnotAhead
    have hbehind := hr.not_cons₂ (by decide) (by decide) hbehind
    have hnotBehind := hr.not_cons₂ (by decide) (by decide) hnotBehind
    have hnamed := hr.not_cons₂ (by decide) (by decide) hnamed
    have hname := hr.not_cons (by decide) hname
    simp only
    refine Reader.Steady.bind (flagsFrom_steady [] false false) ?_ hr h
    rintro ⟨change, close⟩ lost cs cs' a rest hc h
    simp only at h ⊢
    split at h
    · next hplain =>
      rw [if_pos hplain]
      exact Reader.steady_return (.ok (GroupStart.plain change)) id hc h
    · next hplain =>
      rw [if_neg hplain]
      split at h
      · cases h
      · next hsome =>
        rw [if_neg hsome]
        exact Reader.steady_return (.ok (GroupStart.flags change)) id hc h
  · next hmark =>
    have hmark := hs.not_cons (by decide) hmark
    cases h
    split
    all_goals first | exact absurd rfl (hmark _) | exact ⟨_, rfl, hs⟩

/-! ## Steps -/

/-- The tree of a group with `ast` in it and of what stands before it. -/
def OpenGroup.close (g : OpenGroup) (ast : Ast) : Ast :=
  Ast.ofBranches (Ast.ofItems (.group g.change g.captures ast :: g.items).reverse) g.branches.reverse

namespace Progress

variable {g : OpenGroup} {p q : Progress} {rest : List Char}

/-- The progress with one more group around everything. -/
def inside (p : Progress) (g : OpenGroup) : Progress := { p with groups := p.groups ++ [g] }

theorem repeated_inside {least : Nat} {greatest : Option Nat} (h : p.repeated least greatest = .ok q) :
    (p.inside g).repeated least greatest = .ok (q.inside g) := by
  obtain ⟨groups, items, branches, spaced, names⟩ := p
  unfold repeated at h
  split at h
  · cases h
  · cases h
  · next hflags heq =>
    cases h
    cases heq
    unfold repeated inside
    simp only

theorem begin_inside {start : GroupStart} (h : p.begin start = .ok q) :
    (p.inside g).begin start = .ok (q.inside g) := by
  cases start with
  | flags change =>
      cases h
      rfl
  | plain change =>
      cases h
      rfl
  | capture name =>
      cases name with
      | none =>
          cases h
          rfl
      | some name =>
          rw [begin] at h ⊢
          split at h
          · cases h
          · next hnew =>
            cases h
            exact if_neg hnew

theorem leave_inside (h : p.leave = .ok q) : (p.inside g).leave = .ok (q.inside g) := by
  obtain ⟨groups, items, branches, spaced, names⟩ := p
  cases groups with
  | nil => cases h
  | cons group groups =>
      cases h
      rfl

/-- One step inside a group is the same step. -/
theorem step_inside (g : OpenGroup) (h : p.step c cs = .ok (q, rest)) :
    (p.inside g).step c cs = .ok (q.inside g, rest) := by
  unfold step at h
  split at h
  · obtain ⟨⟨start, r⟩, hstart, h⟩ := bind_eq_ok_iff.mp h
    obtain ⟨q', hq, h⟩ := bind_eq_ok_iff.mp h
    cases h
    exact bind_eq_ok_iff.mpr ⟨_, hstart, bind_eq_ok_iff.mpr ⟨_, begin_inside hq, rfl⟩⟩
  · obtain ⟨q', hq, h⟩ := bind_eq_ok_iff.mp h
    cases h
    exact bind_eq_ok_iff.mpr ⟨_, leave_inside hq, rfl⟩
  · cases h
    rfl
  · obtain ⟨⟨item, r⟩, hitem, h⟩ := bind_eq_ok_iff.mp h
    cases h
    exact bind_eq_ok_iff.mpr ⟨_, hitem, rfl⟩
  · obtain ⟨q', hq, h⟩ := bind_eq_ok_iff.mp h
    cases h
    exact bind_eq_ok_iff.mpr ⟨_, repeated_inside hq, rfl⟩
  · obtain ⟨q', hq, h⟩ := bind_eq_ok_iff.mp h
    cases h
    exact bind_eq_ok_iff.mpr ⟨_, repeated_inside hq, rfl⟩
  · obtain ⟨q', hq, h⟩ := bind_eq_ok_iff.mp h
    cases h
    exact bind_eq_ok_iff.mpr ⟨_, repeated_inside hq, rfl⟩
  · obtain ⟨⟨⟨least, greatest⟩, r⟩, hcounts, h⟩ := bind_eq_ok_iff.mp h
    obtain ⟨q', hq, h⟩ := bind_eq_ok_iff.mp h
    cases h
    exact bind_eq_ok_iff.mpr ⟨_, hcounts, bind_eq_ok_iff.mpr ⟨_, repeated_inside hq, rfl⟩⟩
  · obtain ⟨⟨item, r⟩, hitem, h⟩ := bind_eq_ok_iff.mp h
    cases h
    exact bind_eq_ok_iff.mpr ⟨_, hitem, rfl⟩
  · cases h
    rfl
  · cases h
    rfl
  · cases h
    rfl
  · cases h
    rw [step]
    · rfl
    all_goals assumption

/-- A step makes the same of a text with a closing parenthesis behind it. -/
theorem step_steady (p : Progress) (c : Char) : Reader.Steady (p.step c) := by
  intro lost cs cs' q rest hc h
  unfold step at h
  split at h
  · refine Reader.Steady.bind (groupStart_steady p.spaced) ?_ hc h
    exact fun start => Reader.steady_return (p.begin start) id
  · exact Reader.steady_return p.leave id hc h
  · cases h
    exact ⟨cs', rfl, hc⟩
  · refine Reader.Steady.bind (bracketed_steady p.spaced) ?_ hc h
    exact fun item => Reader.steady_return (.ok (p.add item)) id
  · exact Reader.steady_return (p.repeated 0 (some 1)) dropLazy_closed hc h
  · exact Reader.steady_return (p.repeated 0 none) dropLazy_closed hc h
  · exact Reader.steady_return (p.repeated 1 none) dropLazy_closed hc h
  · refine Reader.Steady.bind (counts_steady p.spaced) ?_ hc h
    exact fun bounds => Reader.steady_return (p.repeated bounds.1 bounds.2) id
  · refine Reader.Steady.bind (escape_steady p.spaced) ?_ hc h
    exact fun item => Reader.steady_return (.ok (p.add item)) id
  · cases h
    exact ⟨cs', rfl, hc⟩
  · cases h
    exact ⟨cs', rfl, hc⟩
  · cases h
    exact ⟨cs', rfl, hc⟩
  · cases h
    rw [step]
    · exact ⟨cs', rfl, hc⟩
    all_goals assumption

/-! ## Runs -/

/-- What comes next in a pattern, without the facts that make its reader come to an end. -/
theorem run_eq (p : Progress) (cs : List Char) :
    p.run cs =
      match skipBlanks p.spaced cs with
      | [] => p.finish
      | c :: rest =>
        match p.step c rest with
        | .error e => .error e
        | .ok (q, rest) => q.run rest := by
  rw [run]
  split <;> simp only [*]
  split <;> simp only [*]

theorem run_nil (p : Progress) : p.run [] = p.finish := by
  have hnil : skipBlanks p.spaced [] = [] := by
    unfold skipBlanks
    split <;> rfl
  rw [run_eq, hnil]

/-- With a closing parenthesis behind it, a pattern is read up to the parenthesis, which closes the group around it and
is refused if there is none; or a comment has taken the parenthesis, and the pattern is read as if it were not there. -/
theorem run_closed {ast : Ast} (g : OpenGroup) (hc : Closed lost cs cs') (h : p.run cs = .ok ast) :
    ((p.inside g).run cs' = .ok (g.close ast) ∧ p.run cs' = .error .unopenedGroup) ∨
      (lost ∧ (p.inside g).run cs' = .error .unclosedGroup ∧ p.run cs' = .ok ast) := by
  have hs := hc.skipBlanks p.spaced
  fun_induction run p cs generalizing cs' with
  | case1 p cs heq =>
      obtain ⟨groups, items, branches, spaced, names⟩ := p
      cases groups with
      | cons group groups => cases h
      | nil =>
          cases h
          rw [heq] at hs
          rw [run_eq, run_eq]
          rcases hs.nil_of with ⟨hlost, hs'⟩ | hs'
          · refine .inr ⟨hlost, ?_, ?_⟩
            · rw [inside, hs']
              rfl
            · rw [hs']
              rfl
          · refine .inl ⟨?_, ?_⟩
            · rw [inside, hs']
              exact run_nil _
            · rw [hs']
              rfl
  | case2 => cases h
  | case3 p cs c r heq q rest hstep ih =>
      rw [heq] at hs
      obtain ⟨r', hs', hr⟩ := hs.cons_of
      obtain ⟨rest', hstep', hrest⟩ := step_steady p c hr hstep
      have hspaced : skipBlanks (p.inside g).spaced cs' = c :: r' := hs'
      rw [run_eq, hspaced, run_eq p cs', hs']
      simp only [step_inside g hstep', hstep']
      exact ih hrest h (hrest.skipBlanks q.spaced)

end Progress

end BuilderAudit.Pattern
