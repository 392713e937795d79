import BuilderAudit.Pattern.Escape

/-!
# A parenthesis behind the text

A reader that succeeds on a text makes the same of the text with a closing parenthesis behind it (`Reader.Steady`), for
what it was looking for has stood in the text. It leaves the parenthesis with the rest, or skips it together with a
comment that has no end. So what is left is `Closed`: the same text with the parenthesis behind it, or without it if the
last line has a sign of comments.

* `Closed.skipBlanks`, `Closed.dropWhile` : texts that are closed stay so when their beginnings are dropped;
* `Reader.Steady.bind`, `Reader.steady_return` : readers that are put together from steady ones are steady;
* `escape_steady` : the readers of escapes are steady.
-/

namespace BuilderAudit

namespace Pattern

/-- A sign of comments stands in the last line. -/
def SignInLastLine (cs : List Char) : Prop := ∃ front comment, cs = front ++ '#' :: comment ∧ '\n' ∉ comment

/-- The second text is the first one with a closing parenthesis behind it, or without it if that may be `lost`. It may
if the last line has a sign of comments. -/
inductive Closed (lost : Prop) : List Char → List Char → Prop
  | nil (h : lost) : Closed lost [] []
  | paren : Closed lost [] [')']
  | cons {c : Char} {cs cs' : List Char} (sign : c = '#' → '\n' ∉ cs → lost) (h : Closed lost cs cs') :
      Closed lost (c :: cs) (c :: cs')

namespace Closed

variable {lost : Prop} {c : Char} {cs cs' : List Char}

theorem append (cs : List Char) (hsign : SignInLastLine cs → lost) : Closed lost cs (cs ++ [')']) := by
  induction cs with
  | nil => exact .paren
  | cons c cs ih =>
      refine .cons (fun hc hline => hsign ⟨[], cs, by rw [hc, List.nil_append], hline⟩) (ih ?_)
      rintro ⟨front, comment, rfl, hline⟩
      exact hsign ⟨c :: front, comment, rfl, hline⟩

/-- A character that does not begin a comment. -/
theorem plain (hc : c ≠ '#') (h : Closed lost cs cs') : Closed lost (c :: cs) (c :: cs') :=
  .cons (fun hsign => absurd hsign hc) h

theorem weaken (h : Closed lost cs cs') : Closed True cs cs' := by
  induction h with
  | nil => exact .nil trivial
  | paren => exact .paren
  | cons _ _ ih => exact .cons (fun _ _ => trivial) ih

/-- Whatever begins with anything but a parenthesis begins so without the one behind it. -/
theorem of_cons (h : Closed lost cs (c :: cs')) (hc : c ≠ ')') : ∃ rest, cs = c :: rest ∧ Closed lost rest cs' := by
  cases h with
  | paren => exact absurd rfl hc
  | cons _ h => exact ⟨_, rfl, h⟩

theorem not_cons (h : Closed lost cs cs') (hc : c ≠ ')') (hnot : ∀ rest, cs = c :: rest → False) :
    ∀ rest, cs' = c :: rest → False := by
  rintro rest rfl
  obtain ⟨rest, rfl, _⟩ := h.of_cons hc
  exact hnot rest rfl

theorem not_cons₂ {d : Char} (h : Closed lost cs cs') (hc : c ≠ ')') (hd : d ≠ ')')
    (hnot : ∀ rest, cs = c :: d :: rest → False) : ∀ rest, cs' = c :: d :: rest → False := by
  rintro rest rfl
  obtain ⟨_, rfl, hrest⟩ := h.of_cons hc
  obtain ⟨rest, rfl, _⟩ := hrest.of_cons hd
  exact hnot rest rfl

theorem nil_of (h : Closed lost [] cs') : (lost ∧ cs' = []) ∨ cs' = [')'] := by
  cases h with
  | nil h => exact .inl ⟨h, rfl⟩
  | paren => exact .inr rfl

theorem cons_of (h : Closed lost (c :: cs) cs') : ∃ rest', cs' = c :: rest' ∧ Closed lost cs rest' := by
  cases h with
  | cons _ h => exact ⟨_, rfl, h⟩

theorem skipBlanksFrom (h : Closed lost cs cs') (inComment : Bool) (hsign : inComment = true → '\n' ∉ cs → lost) :
    Closed lost (skipBlanksFrom inComment cs) (skipBlanksFrom inComment cs') := by
  induction h generalizing inComment with
  | nil h => exact .nil h
  | paren =>
      cases inComment with
      | false => exact .paren
      | true => exact .nil (hsign rfl List.not_mem_nil)
  | @cons c cs cs' sign h ih =>
      unfold Pattern.skipBlanksFrom
      split
      · next hin =>
        apply ih
        intro hline hrest
        refine hsign hin fun hmem => ?_
        rcases List.mem_cons.mp hmem with hc | hmem
        · rw [← hc] at hline
          exact absurd hline (by decide)
        · exact hrest hmem
      · split
        · exact ih _ fun hin => absurd hin Bool.false_ne_true
        · split
          · next hc => exact ih _ fun _ => sign (beq_iff_eq.mp hc)
          · exact .cons sign h

theorem skipBlanks (h : Closed lost cs cs') (spaced : Bool) :
    Closed lost (skipBlanks spaced cs) (skipBlanks spaced cs') := by
  unfold Pattern.skipBlanks
  split
  · exact h.skipBlanksFrom false nofun
  · exact h

/-- A character that comes next past the blanks comes next with the parenthesis behind the text, too. -/
theorem skipBlanks_cons {spaced : Bool} {rest : List Char} (h : Closed lost cs cs')
    (hnext : Pattern.skipBlanks spaced cs = c :: rest) :
    ∃ rest', Pattern.skipBlanks spaced cs' = c :: rest' ∧ Closed lost rest rest' := by
  have hskipped := h.skipBlanks spaced
  rw [hnext] at hskipped
  exact hskipped.cons_of

theorem skipBlanks_cons₂ {spaced : Bool} {d : Char} {rest : List Char} (h : Closed lost cs cs')
    (hnext : Pattern.skipBlanks spaced cs = c :: d :: rest) :
    ∃ rest', Pattern.skipBlanks spaced cs' = c :: d :: rest' ∧ Closed lost rest rest' := by
  obtain ⟨_, hnext', hbehind⟩ := h.skipBlanks_cons hnext
  obtain ⟨rest', rfl, hrest⟩ := hbehind.cons_of
  exact ⟨rest', hnext', hrest⟩

/-- A beginning is dropped from both texts if its characters are no parentheses, or if the parenthesis may be lost. -/
theorem dropWhile (h : Closed lost cs cs') (p : Char → Bool) (hp : p ')' = true → lost) :
    Closed lost (cs.dropWhile p) (cs'.dropWhile p) := by
  induction h with
  | nil h => exact .nil h
  | paren =>
      by_cases hparen : p ')' = true
      · rw [List.dropWhile_cons_of_pos hparen]
        exact .nil (hp hparen)
      · rw [List.dropWhile_cons_of_neg hparen]
        exact .paren
  | @cons c cs cs' sign h ih =>
      by_cases hc : p c = true
      · rw [List.dropWhile_cons_of_pos hc, List.dropWhile_cons_of_pos hc]
        exact ih
      · rw [List.dropWhile_cons_of_neg hc, List.dropWhile_cons_of_neg hc]
        exact .cons sign h

/-- What is passed over on the way to a character that stands in the text is the same in both, and so is the
character. -/
theorem dropWhile_cons (h : Closed lost cs cs') {p : Char → Bool} {rest : List Char}
    (hrest : cs.dropWhile p = c :: rest) :
    cs'.takeWhile p = cs.takeWhile p ∧ ∃ rest', cs'.dropWhile p = c :: rest' ∧ Closed lost rest rest' := by
  induction h with
  | nil => cases hrest
  | paren => cases hrest
  | @cons d cs cs' sign h ih =>
      by_cases hd : p d = true
      · rw [List.dropWhile_cons_of_pos hd] at hrest
        rw [List.takeWhile_cons_of_pos hd, List.takeWhile_cons_of_pos hd, List.dropWhile_cons_of_pos hd]
        obtain ⟨htake, hdrop⟩ := ih hrest
        exact ⟨congrArg (d :: ·) htake, hdrop⟩
      · rw [List.dropWhile_cons_of_neg hd] at hrest
        cases hrest
        rw [List.takeWhile_cons_of_neg hd, List.takeWhile_cons_of_neg hd, List.dropWhile_cons_of_neg hd]
        exact ⟨rfl, cs', rfl, h⟩

end Closed

/-- The second result is the first one, but for a closing parenthesis behind what is left. -/
structure SameResult (lost : Prop) {α : Type} (x y : α × List Char) : Prop where
  value_eq : y.1 = x.1
  closed : Closed lost x.2 y.2

end Pattern

open Pattern

/-- The reader makes the same of a text whether or not a closing parenthesis stands behind it. -/
def Reader.Steady {ε α : Type} (r : Reader ε α) : Prop :=
  ∀ {lost : Prop} {cs cs' : List Char} {a : α} {rest : List Char}, Closed lost cs cs' → r cs = .ok (a, rest) →
    ∃ rest', r cs' = .ok (a, rest') ∧ Closed lost rest rest'

namespace Reader

variable {ε α β : Type}

/-- Whatever does not depend on the text is steady, and so is dropping a beginning of what is left. -/
theorem steady_return (x : Except ε α) {drop : List Char → List Char}
    (hdrop : ∀ {lost cs cs'}, Closed lost cs cs' → Closed lost (drop cs) (drop cs')) :
    Steady fun cs => x >>= fun a => pure (a, drop cs) := by
  intro lost cs cs' a rest hc h
  obtain ⟨a', hx, h⟩ := bind_eq_ok_iff.mp h
  cases h
  exact ⟨drop cs', bind_eq_ok_iff.mpr ⟨_, hx, rfl⟩, hdrop hc⟩

theorem Steady.bind {r : Reader ε α} {f : α × List Char → Except ε (β × List Char)} (hr : r.Steady)
    (hf : ∀ a, Steady fun cs => f (a, cs)) : Steady fun cs => r cs >>= f := by
  intro lost cs cs' b rest hc h
  obtain ⟨⟨a, u⟩, ha, h⟩ := bind_eq_ok_iff.mp h
  obtain ⟨u', ha', hu⟩ := hr hc ha
  obtain ⟨rest', hb, hrest⟩ := hf a hu h
  exact ⟨rest', bind_eq_ok_iff.mpr ⟨_, ha', hb⟩, hrest⟩

end Reader

namespace Pattern

/-! ## Characters by number -/

theorem hexDigits_steady (spaced : Bool) (count value : Nat) : (hexDigits spaced count value).Steady := by
  intro lost cs cs' n rest hc h
  induction count generalizing value cs cs' with
  | zero =>
      cases h
      exact ⟨cs', rfl, hc⟩
  | succ count ih =>
      cases hc with
      | nil => cases h
      | paren => cases h
      | cons sign hc =>
          rw [hexDigits] at h ⊢
          split at h
          · cases h
          · exact ih _ (hc.skipBlanks spaced) h

theorem hexBraced_steady (spaced : Bool) (value : Option Nat) : (hexBraced spaced value).Steady := by
  intro lost cs cs' n rest hc h
  fun_induction hexBraced spaced value cs generalizing cs' with
  | case1 => cases h
  | case2 => cases h
  | case3 c cs hbrace v =>
      cases hc with
      | cons sign hc =>
          cases h
          unfold hexBraced
          rw [if_pos hbrace]
          exact ⟨_, rfl, hc.skipBlanks spaced⟩
  | case4 => cases h
  | case5 value c cs hbrace d hd ih =>
      cases hc with
      | cons sign hc =>
          unfold hexBraced
          rw [if_neg hbrace, hd]
          exact ih (hc.skipBlanks spaced) h

theorem numbered_steady (spaced : Bool) (count : Nat) : (numbered spaced count).Steady := by
  intro lost cs cs' a rest hc h
  have hs := hc.skipBlanks spaced
  unfold numbered at h ⊢
  generalize Pattern.skipBlanks spaced cs = t at h hs
  generalize Pattern.skipBlanks spaced cs' = t' at hs ⊢
  split at h
  · obtain ⟨inner', rfl, hinner⟩ := hs.cons_of
    refine Reader.Steady.bind (hexBraced_steady spaced none) ?_ (hinner.skipBlanks spaced) h
    exact fun n => Reader.steady_return (literalOfNumber false n) id
  · next hbrace =>
    have hbrace := hs.not_cons (by decide) hbrace
    simp only
    refine Reader.Steady.bind (hexDigits_steady spaced count 0) ?_ hs h
    exact fun n => Reader.steady_return (literalOfNumber (count == 2) n) id

/-! ## Properties -/

theorem bracedText_steady (spaced : Bool) : (bracedText spaced).Steady := by
  intro lost cs cs' text rest hc h
  fun_induction bracedText spaced cs generalizing cs' text rest with
  | case1 => cases h
  | case2 c cs hbrace =>
      cases hc with
      | cons sign hc =>
          cases h
          rw [bracedText, if_pos hbrace]
          exact ⟨_, rfl, hc⟩
  | case3 c cs hbrace ih =>
      cases hc with
      | cons sign hc =>
          obtain ⟨⟨text, r⟩, ht, h⟩ := bind_eq_ok_iff.mp h
          cases h
          obtain ⟨rest', ht', hrest⟩ := ih (hc.skipBlanks spaced) ht
          rw [bracedText, if_neg hbrace]
          exact ⟨rest', bind_eq_ok_iff.mpr ⟨_, ht', rfl⟩, hrest⟩

theorem propertyName_steady (spaced negated : Bool) : (propertyName spaced negated).Steady := by
  intro lost cs cs' a rest hc h
  have hs := hc.skipBlanks spaced
  unfold propertyName at h ⊢
  generalize Pattern.skipBlanks spaced cs = t at h hs
  generalize Pattern.skipBlanks spaced cs' = t' at hs ⊢
  split at h
  · cases h
  · obtain ⟨inner', rfl, hinner⟩ := hs.cons_of
    refine Reader.Steady.bind (bracedText_steady spaced) ?_ (hinner.skipBlanks spaced) h
    exact fun text => Reader.steady_return (.ok (Ast.property (queryOf text) negated)) id
  · next c letters hbrace =>
    obtain ⟨letters', rfl, hletters⟩ := hs.cons_of
    simp only
    split at h
    · cases h
    · next hslash =>
      cases h
      rw [if_neg hslash]
      exact ⟨_, rfl, hletters.skipBlanks spaced⟩

/-! ## Words -/

theorem boundaryName_closed (spaced : Bool) {lost : Prop} {cs cs' : List Char} (hc : Closed lost cs cs') :
    SameResult lost (boundaryName spaced cs) (boundaryName spaced cs') := by
  fun_induction boundaryName spaced cs generalizing cs' with
  | case1 =>
      cases hc with
      | nil hlost =>
          rw [boundaryName]
          exact ⟨rfl, .nil hlost⟩
      | paren =>
          rw [boundaryName, if_neg (by decide)]
          exact ⟨rfl, .paren⟩
  | case2 c cs hname name rest heq ih =>
      cases hc with
      | cons sign hc =>
          obtain ⟨hnames, hrest⟩ := ih (hc.skipBlanks spaced)
          rw [boundaryName, if_pos hname]
          rw [heq] at hnames hrest
          exact ⟨congrArg (c :: ·) hnames, hrest⟩
  | case3 c cs hname =>
      cases hc with
      | cons sign hc =>
          rw [boundaryName, if_neg hname]
          exact ⟨rfl, .cons sign hc⟩

theorem wordBoundary_steady (spaced : Bool) : (wordBoundary spaced).Steady := by
  intro lost cs cs' a rest hc h
  unfold wordBoundary at h ⊢
  split at h
  · obtain ⟨inner', rfl, hinner⟩ := hc.cons_of
    have hs := hinner.skipBlanks spaced
    simp only
    generalize Pattern.skipBlanks spaced _ = t at h hs
    generalize Pattern.skipBlanks spaced inner' = t' at hs ⊢
    split at h
    · cases h
    · next c letters =>
      obtain ⟨hname, hrest⟩ := boundaryName_closed spaced hs
      obtain ⟨letters', rfl, -⟩ := hs.cons_of
      simp only
      split at h
      · next hletter =>
        rw [if_pos hletter]
        generalize boundaryName spaced (c :: letters) = named at h hname hrest
        generalize boundaryName spaced (c :: letters') = named' at hname hrest ⊢
        obtain ⟨name, r⟩ := named
        obtain ⟨name', r'⟩ := named'
        obtain rfl : name' = name := hname
        split at h
        · next heq =>
          cases heq
          obtain ⟨r', rfl, hr⟩ := hrest.cons_of
          simp only
          split at h
          · cases h
            exact ⟨_, rfl, hr⟩
          · cases h
        · cases h
      · next hletter =>
        cases h
        rw [if_neg hletter]
        exact ⟨_, rfl, .plain (by decide) hinner⟩
  · next hbrace =>
    have hbrace := hc.not_cons (by decide) hbrace
    cases h
    simp only
    exact ⟨_, rfl, hc⟩

/-! ## All escapes -/

theorem escape_steady (spaced : Bool) : (escape spaced).Steady := by
  intro lost cs cs' a rest hc h
  cases hc with
  | nil => cases h
  | paren => cases h
  | cons sign hc =>
      unfold escape at h
      simp only at h
      split at h
      case h_1 => exact numbered_steady spaced 2 hc h
      case h_2 => exact numbered_steady spaced 4 hc h
      case h_3 => exact numbered_steady spaced 8 hc h
      case h_4 => exact propertyName_steady spaced false hc h
      case h_5 => exact propertyName_steady spaced true hc h
      case h_20 => exact wordBoundary_steady spaced hc h
      case h_24 =>
        split at h
        · next hescapable =>
          cases h
          rw [escape, if_pos hescapable]
          · exact ⟨_, rfl, hc⟩
          all_goals assumption
        · cases h
      all_goals
        cases h
        exact ⟨_, rfl, hc⟩

end Pattern

end BuilderAudit
