import BuilderAudit.Pattern.Class
import BuilderAudit.Proofs.Pattern.Closed

/-!
# Classes before a parenthesis

A class ends with its closing bracket, so whatever looks ahead in it finds the same with a closing parenthesis behind
the text: the name of a named class (`namedClass?_closed`) and the character behind a hyphen (`peekPastBlanks_closed`).

* `classItem_steady`, `bracketed_steady` : the readers of classes are steady.
-/

namespace BuilderAudit.Pattern

variable {lost : Prop} {c : Char} {cs cs' : List Char}

/-! ## Openings -/

theorem leadingHyphens_closed (spaced : Bool) (o : OpenClass) (hc : Closed lost cs cs') :
    SameResult lost (leadingHyphens spaced o cs) (leadingHyphens spaced o cs') := by
  fun_induction leadingHyphens spaced o cs generalizing cs' with
  | case1 =>
      cases hc with
      | nil hlost =>
          rw [leadingHyphens]
          exact ⟨rfl, .nil hlost⟩
      | paren =>
          rw [leadingHyphens, if_neg (by decide)]
          exact ⟨rfl, .paren⟩
  | case2 o c cs hhyphen ih =>
      cases hc with
      | cons sign hc =>
          rw [leadingHyphens, if_pos hhyphen]
          exact ih (hc.skipBlanks spaced)
  | case3 o c cs hhyphen =>
      cases hc with
      | @cons d _ _ sign hc =>
          rw [leadingHyphens, if_neg hhyphen]
          exact ⟨rfl, .cons sign hc⟩

/-- The sign of negation, if there is one. -/
def caret (spaced : Bool) : List Char → Bool × List Char
  | '^' :: rest => (true, skipBlanks spaced rest)
  | cs => (false, cs)

/-- A closing bracket, which stands for itself if nothing stands before it. -/
def firstBracket (spaced : Bool) (o : OpenClass) : List Char → OpenClass × List Char
  | ']' :: rest => if o.items.isEmpty then (o.add (.literal ']'), skipBlanks spaced rest) else (o, ']' :: rest)
  | cs => (o, cs)

theorem firstBracket_of_ne (spaced : Bool) (o : OpenClass) (hc : c ≠ ']') (cs : List Char) :
    firstBracket spaced o (c :: cs) = (o, c :: cs) := by
  rw [firstBracket]
  rintro _ ⟨⟩
  exact hc rfl

theorem openClass_eq (spaced : Bool) (cs : List Char) :
    openClass spaced cs =
      let sign := caret spaced (skipBlanks spaced cs)
      let hyphens := leadingHyphens spaced ⟨sign.1, none, []⟩ sign.2
      firstBracket spaced hyphens.1 hyphens.2 := by
  unfold openClass
  dsimp only
  split
  · next o rest heq =>
    have heq : leadingHyphens spaced ⟨(caret spaced (skipBlanks spaced cs)).1, none, []⟩
        (caret spaced (skipBlanks spaced cs)).2 = (o, ']' :: rest) := heq
    rw [heq]
    rfl
  · next o rest hne heq =>
    have heq : leadingHyphens spaced ⟨(caret spaced (skipBlanks spaced cs)).1, none, []⟩
        (caret spaced (skipBlanks spaced cs)).2 = (o, rest) := heq
    rw [heq, firstBracket]
    rintro u rfl
    exact hne u rfl

theorem caret_of_ne (spaced : Bool) (hc : c ≠ '^') (cs : List Char) : caret spaced (c :: cs) = (false, c :: cs) := by
  rw [caret]
  rintro _ ⟨⟩
  exact hc rfl

theorem caret_closed (spaced : Bool) (hc : Closed lost cs cs') :
    SameResult lost (caret spaced cs) (caret spaced cs') := by
  cases hc with
  | nil hlost => exact ⟨rfl, .nil hlost⟩
  | paren => exact ⟨rfl, .paren⟩
  | @cons c _ _ sign hc =>
      by_cases hcaret : c = '^'
      · subst hcaret
        exact ⟨rfl, hc.skipBlanks spaced⟩
      · rw [caret_of_ne spaced hcaret, caret_of_ne spaced hcaret]
        exact ⟨rfl, .cons sign hc⟩

theorem firstBracket_closed (spaced : Bool) (o : OpenClass) (hc : Closed lost cs cs') :
    SameResult lost (firstBracket spaced o cs) (firstBracket spaced o cs') := by
  cases hc with
  | nil hlost => exact ⟨rfl, .nil hlost⟩
  | paren => exact ⟨rfl, .paren⟩
  | @cons c _ _ sign hc =>
      by_cases hbracket : c = ']'
      · subst hbracket
        rw [firstBracket, firstBracket]
        split
        · exact ⟨rfl, hc.skipBlanks spaced⟩
        · exact ⟨rfl, .cons sign hc⟩
      · rw [firstBracket_of_ne spaced o hbracket, firstBracket_of_ne spaced o hbracket]
        exact ⟨rfl, .cons sign hc⟩

theorem openClass_closed (spaced : Bool) (hc : Closed lost cs cs') :
    SameResult lost (openClass spaced cs) (openClass spaced cs') := by
  obtain ⟨hsign, hsigned⟩ := caret_closed spaced (hc.skipBlanks spaced)
  obtain ⟨hhyphens, hhyphened⟩ :=
    leadingHyphens_closed spaced ⟨(caret spaced (skipBlanks spaced cs)).1, none, []⟩ hsigned
  rw [openClass_eq, openClass_eq]
  simp only [hsign, hhyphens]
  exact firstBracket_closed spaced _ hhyphened

/-! ## Looking ahead -/

theorem className?_eq_none (negated : Bool) (h : ∀ rest, cs.dropWhile (· != ':') ≠ ':' :: ']' :: rest) :
    className? negated cs = none := by
  unfold className?
  split
  · next rest heq => exact absurd heq (h rest)
  · rfl

/-- The name of a named class and what stands behind it, or nothing in both texts. -/
theorem className?_closed (negated : Bool) (hc : Closed lost cs cs') :
    Option.Rel (SameResult lost) (className? negated cs) (className? negated cs') := by
  by_cases h : ∃ rest, cs.dropWhile (· != ':') = ':' :: ']' :: rest
  · obtain ⟨rest, hrest⟩ := h
    obtain ⟨hname, _, hrest', hbracket⟩ := hc.dropWhile_cons hrest
    obtain ⟨rest', rfl, hclosed⟩ := hbracket.cons_of
    unfold className?
    rw [hrest, hrest', hname]
    cases AsciiClass.ofName? _ with
    | none => exact .none
    | some kind => exact .some ⟨rfl, hclosed⟩
  · have hnone : ∀ rest, cs.dropWhile (· != ':') ≠ ':' :: ']' :: rest := fun rest hrest => h ⟨rest, hrest⟩
    have hd := hc.weaken.dropWhile (· != ':') fun _ => trivial
    have hnone' : ∀ rest', cs'.dropWhile (· != ':') ≠ ':' :: ']' :: rest' := hd.not_cons₂ (by decide) (by decide) hnone
    rw [className?_eq_none negated hnone, className?_eq_none negated hnone']
    exact .none

theorem namedClass?_closed (hc : Closed lost cs cs') :
    Option.Rel (SameResult lost) (namedClass? cs) (namedClass? cs') := by
  cases hc with
  | nil => exact .none
  | paren => exact .none
  | @cons c _ _ sign hc =>
      by_cases hcolon : c = ':'
      · subst hcolon
        cases hc with
        | nil hlost => exact className?_closed false (.nil hlost)
        | paren => exact className?_closed false .paren
        | @cons d _ _ hsign hc =>
            by_cases hcaret : d = '^'
            · subst hcaret
              exact className?_closed true hc
            · have hplain : ∀ u, namedClass? (':' :: d :: u) = className? false (d :: u) := by
                intro u
                rw [namedClass?]
                rintro _ ⟨⟩
                exact hcaret rfl
              rw [hplain, hplain]
              exact className?_closed false (.cons hsign hc)
      · have hnone : ∀ u, namedClass? (c :: u) = none := by
          intro u
          rw [namedClass?] <;> rintro _ ⟨⟩ <;> exact hcolon rfl
        rw [hnone, hnone]
        exact .none

theorem firstPastBlanks_closed (hc : Closed lost cs cs') (hparen : c ≠ ')') (inComment : Bool) :
    firstPastBlanks inComment cs = some c ↔ firstPastBlanks inComment cs' = some c := by
  induction hc generalizing inComment with
  | nil => exact Iff.rfl
  | paren =>
      constructor
      · nofun
      · intro h
        cases inComment <;> exact absurd (Option.some.inj h).symm hparen
  | cons sign hc ih =>
      unfold firstPastBlanks
      split
      · exact ih inComment
      · split
        · exact ih true
        · exact Iff.rfl

/-- The first character of a text of blanks and signs of comments is one of them. -/
theorem head?_ne_of_firstPastBlanks (h : firstPastBlanks false cs = none) (hblank : isBlank c = false)
    (hsign : c ≠ '#') :
    cs.head? ≠ some c := by
  cases cs with
  | nil => nofun
  | cons d cs =>
      rintro ⟨⟩
      rw [firstPastBlanks, hblank] at h
      simp only [Bool.false_eq_true, if_false, Bool.not_false, Bool.true_and, beq_iff_eq, if_neg hsign] at h
      cases h

theorem peekPastBlanks_closed (hc : Closed lost cs cs') (hparen : c ≠ ')') (hblank : isBlank c = false)
    (hsign : c ≠ '#') (spaced : Bool) : peekPastBlanks spaced cs = some c ↔ peekPastBlanks spaced cs' = some c := by
  unfold peekPastBlanks
  cases spaced with
  | false =>
      cases hc with
      | nil => exact Iff.rfl
      | paren => exact ⟨nofun, fun h => absurd (Option.some.inj h).symm hparen⟩
      | cons sign hc => exact Iff.rfl
  | true =>
      have hfirst : ∀ u, (firstPastBlanks false u <|> u.head?) = some c ↔ firstPastBlanks false u = some c := by
        intro u
        cases h : firstPastBlanks false u with
        | none => exact ⟨fun hhead => absurd hhead (head?_ne_of_firstPastBlanks h hblank hsign), nofun⟩
        | some d => exact Iff.rfl
      simp only [if_true, hfirst]
      exact firstPastBlanks_closed hc hparen false

/-! ## Items -/

theorem classPrimitive_steady (spaced : Bool) : Reader.Steady (classPrimitive spaced) := by
  intro lost cs cs' a rest hc h
  cases hc with
  | nil => cases h
  | paren => cases h
  | cons sign hc =>
      rw [classPrimitive] at h ⊢
      split at h
      · next hslash =>
        rw [if_pos hslash]
        exact escape_steady spaced hc h
      · next hslash =>
        rw [if_neg hslash]
        cases h
        exact ⟨_, rfl, hc⟩

theorem classItem_steady (spaced : Bool) : (classItem spaced).Steady := by
  intro lost cs cs' item rest hc h
  unfold classItem at h ⊢
  refine Reader.Steady.bind (classPrimitive_steady spaced) ?_ hc h
  intro first lost cs cs' item rest hc h
  have hs := hc.skipBlanks spaced
  simp only at h ⊢
  generalize skipBlanks spaced cs = t at h hs
  generalize skipBlanks spaced cs' = t' at hs ⊢
  cases hs with
  | nil => cases h
  | paren => cases h
  | cons sign hs =>
      have hbracket := peekPastBlanks_closed hs (by decide : ']' ≠ ')') (by decide) (by decide) spaced
      have hhyphen := peekPastBlanks_closed hs (by decide : '-' ≠ ')') (by decide) (by decide) spaced
      simp only [Bool.or_eq_true, bne_iff_ne, beq_iff_eq, hbracket, hhyphen] at h ⊢
      split at h
      · next hsingle =>
        rw [if_pos hsingle]
        obtain ⟨item, hitem, h⟩ := bind_eq_ok_iff.mp h
        cases h
        exact ⟨_, bind_eq_ok_iff.mpr ⟨item, hitem, rfl⟩, .cons sign hs⟩
      · next hsingle =>
        rw [if_neg hsingle]
        refine Reader.Steady.bind (classPrimitive_steady spaced) ?_ (hs.skipBlanks spaced) h
        exact fun last => Reader.steady_return (classRangeOf first last) id

/-! ## Whole classes -/

/-- What comes next in a class, without the facts that make its reader come to an end. -/
theorem classBody_eq (spaced : Bool) (cur : OpenClass) (outer : List OpenClass) (cs : List Char) :
    classBody spaced cur outer cs =
      match skipBlanks spaced cs with
      | [] => .error .unclosedClass
      | '[' :: rest =>
        match namedClass? rest with
        | some (item, rest) => classBody spaced (cur.add item) outer rest
        | none => classBody spaced (openClass spaced rest).1 (cur :: outer) (openClass spaced rest).2
      | ']' :: rest =>
        match outer with
        | [] => .ok (.bracketed cur.content cur.negated, rest)
        | o :: outer => classBody spaced (o.add (.bracketed cur.content cur.negated)) outer rest
      | '&' :: '&' :: rest => classBody spaced (cur.operate .inter) outer rest
      | '-' :: '-' :: rest => classBody spaced (cur.operate .diff) outer rest
      | '~' :: '~' :: rest => classBody spaced (cur.operate .symmDiff) outer rest
      | c :: rest =>
        match classItem spaced (c :: rest) with
        | .error e => .error e
        | .ok (item, rest) => classBody spaced (cur.add item) outer rest := by
  rw [classBody]
  split
  · next hs => simp only [hs]
  · next hs =>
    simp only [hs]
    split <;> simp only [*]
  · next hs => cases outer <;> simp only [hs]
  · next hs => simp only [hs]
  · next hs => simp only [hs]
  · next hs => simp only [hs]
  · next hopen hclose hinter hdiff hsymm hs =>
    simp only [hs]
    split <;> simp only [*]

theorem classBody_steady (spaced : Bool) (cur : OpenClass) (outer : List OpenClass) :
    Reader.Steady (classBody spaced cur outer) := by
  intro lost cs cs' a rest hc h
  fun_induction classBody spaced cur outer cs generalizing cs' with
  | case1 => cases h
  | case2 cur outer cs inner heq item r hnamed ih =>
      obtain ⟨inner', hs', hinner⟩ := hc.skipBlanks_cons heq
      have hnamed' := namedClass?_closed hinner
      rw [classBody_eq, hs']
      rw [hnamed] at hnamed'
      simp only
      generalize namedClass? inner' = found at hnamed' ⊢
      cases hnamed' with
      | some hsame =>
          obtain ⟨hitem, hr⟩ := hsame
          obtain rfl := hitem
          exact ih hr h
  | case3 cur outer cs inner heq hnamed ih =>
      obtain ⟨inner', hs', hinner⟩ := hc.skipBlanks_cons heq
      have hnamed' := namedClass?_closed hinner
      obtain ⟨hopen, hrest⟩ := openClass_closed spaced hinner
      rw [classBody_eq, hs']
      rw [hnamed] at hnamed'
      simp only
      generalize namedClass? inner' = found at hnamed' ⊢
      cases hnamed' with
      | none =>
          simp only [hopen]
          exact ih hrest h
  | case4 cur cs r heq =>
      cases h
      obtain ⟨r', hs', hr⟩ := hc.skipBlanks_cons heq
      rw [classBody_eq, hs']
      exact ⟨r', rfl, hr⟩
  | case5 cur cs r heq o outer ih =>
      obtain ⟨r', hs', hr⟩ := hc.skipBlanks_cons heq
      rw [classBody_eq, hs']
      exact ih hr h
  | case6 cur outer cs r heq ih | case7 cur outer cs r heq ih | case8 cur outer cs r heq ih =>
      obtain ⟨r', hs', hr⟩ := hc.skipBlanks_cons₂ heq
      rw [classBody_eq, hs']
      exact ih hr h
  | case9 => cases h
  | case10 cur outer cs c letters hopen hclose hinter hdiff hsymm heq item r hitem ih =>
      have hs := hc.skipBlanks spaced
      rw [heq] at hs
      obtain ⟨letters', hs', hletters⟩ := hs.cons_of
      rw [hs'] at hs
      have hinter := fun u hc => hletters.not_cons (by decide) (hinter · hc) u
      have hdiff := fun u hc => hletters.not_cons (by decide) (hdiff · hc) u
      have hsymm := fun u hc => hletters.not_cons (by decide) (hsymm · hc) u
      obtain ⟨r', hitem', hr⟩ := classItem_steady spaced hs hitem
      rw [classBody_eq, hs']
      simp only [hitem']
      exact ih hr h

theorem bracketed_steady (spaced : Bool) : (bracketed spaced).Steady := by
  intro lost cs cs' a rest hc h
  obtain ⟨hopen, hrest⟩ := openClass_closed spaced hc
  unfold bracketed at h ⊢
  rw [hopen]
  exact classBody_steady spaced _ _ hrest h

end BuilderAudit.Pattern
