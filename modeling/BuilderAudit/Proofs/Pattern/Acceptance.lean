import BuilderAudit.Proofs.Pattern.Anchored

/-!
# Which texts are patterns for names

A text is a pattern for names if it is a pattern by itself and in its group behind the anchor. The second condition
refuses patterns for one reason besides their size: a comment in the last line takes the parenthesis that would close
the group. Nothing else that a pattern may end with reaches the parenthesis, and no text is accepted for the group
around it.

* `WithinLimits` : a text that is not refused for its depth or size;
* `EndsInComment` : a pattern that is read the same with a closing parenthesis behind it;
* `parenthesis_behind` : what becomes of the parenthesis behind a pattern, with the group around it and without;
* `compile_anchored`, `compile_anchored_comment` : the anchored text of a pattern;
* `ofText?_accepts_iff` : which texts are accepted.
-/

namespace BuilderAudit

namespace Pattern

variable {text : List Char} {ast : Ast} {e : Expr}

/-- The text is not refused for being nested too deeply or for being too large. -/
def WithinLimits (text : List Char) : Prop := compile text ≠ .error .tooDeep ∧ compile text ≠ .error .tooLarge

/-- A comment goes on at the end of the pattern: a closing parenthesis behind it is skipped. -/
def EndsInComment (text : List Char) : Prop := ∃ ast, parse text = .ok ast ∧ parse (text ++ [')']) = .ok ast

/-! ## The parenthesis behind a pattern -/

theorem parse_of_run (h : Progress.start.run text = .ok ast) :
    parse text = if ast.nesting .none ≤ nestingLimit then .ok ast else .error .tooDeep := by
  unfold parse
  rw [h]
  rfl

theorem parse_of_run_error {error : Error} (h : Progress.start.run text = .error error) :
    parse text = .error error := by
  unfold parse
  rw [h]
  rfl

theorem run_of_parse (h : parse text = .ok ast) : Progress.start.run text = .ok ast := by
  obtain ⟨ast', hrun, h⟩ := bind_eq_ok_iff.mp h
  split at h
  · cases h
    exact hrun
  · cases h

/-- The parenthesis behind a pattern closes the group around it, and is refused without one; or a comment takes it in
both cases. -/
theorem parenthesis_behind (h : parse text = .ok ast) :
    (Progress.start.run (anchored text) = .ok (.seq (.assertion .lineStart) (.group [] false ast)) ∧
        parse (text ++ [')']) = .error .unopenedGroup) ∨
      (SignInLastLine text ∧ parse (anchored text) = .error .unclosedGroup ∧ parse (text ++ [')']) = .ok ast) := by
  have hrun := run_of_parse h
  rcases Progress.run_closed anchorGroup (Closed.append text id) hrun with ⟨hinside, hplain⟩ | ⟨hsign, hinside, hplain⟩
  · rw [← run_anchored] at hinside
    exact .inl ⟨hinside, parse_of_run_error hplain⟩
  · rw [← run_anchored] at hinside
    refine .inr ⟨hsign, parse_of_run_error hinside, ?_⟩
    rw [parse_of_run hplain, ← parse_of_run hrun, h]

/-- A pattern that ends in a comment has the sign of one in its last line, and its group is never closed. -/
theorem EndsInComment.unclosed (h : EndsInComment text) :
    SignInLastLine text ∧ parse (anchored text) = .error .unclosedGroup := by
  obtain ⟨ast, hplain, hbehind⟩ := h
  rcases parenthesis_behind hplain with ⟨-, herror⟩ | ⟨hsign, hwhole, -⟩
  · rw [hbehind] at herror
    cases herror
  · exact ⟨hsign, hwhole⟩

/-- The group of any other pattern is closed at its end. -/
theorem run_anchored_of_closed (h : parse text = .ok ast) (hcomment : ¬ EndsInComment text) :
    Progress.start.run (anchored text) = .ok (.seq (.assertion .lineStart) (.group [] false ast)) := by
  rcases parenthesis_behind h with ⟨hwhole, -⟩ | ⟨-, -, hbehind⟩
  · exact hwhole
  · exact absurd ⟨ast, h, hbehind⟩ hcomment

/-! ## Compiling behind the anchor -/

/-- Behind the anchor a pattern has an expression if it has one by itself. -/
theorem resolve_anchor {flags : Flags} (h : ast.resolve Flags.initial = .ok (flags, e)) :
    (Ast.seq (.assertion .lineStart) (.group [] false ast)).resolve Flags.initial =
      .ok (Flags.initial, .seq (.look .textStart) e) := by
  have hgroup : (Ast.group [] false ast).resolve Flags.initial = .ok (Flags.initial, e) :=
    bind_eq_ok_iff.mpr ⟨(flags, e), h, rfl⟩
  exact bind_eq_ok_iff.mpr ⟨_, rfl, bind_eq_ok_iff.mpr ⟨_, hgroup, rfl⟩⟩

/-- A pattern compiles behind the anchor, too, within the limits and unless it ends in a comment. -/
theorem compile_anchored (h : compile text = .ok e) (hlimits : WithinLimits (anchored text))
    (hcomment : ¬ EndsInComment text) : compile (anchored text) = .ok (.seq (.look .textStart) e) := by
  obtain ⟨ast, flags, hparse, hresolve⟩ := of_compile_eq_ok h
  have hwhole := parse_of_run (run_anchored_of_closed hparse hcomment)
  have hanchor := resolve_anchor hresolve
  obtain ⟨hdeep, hlarge⟩ := hlimits
  unfold compile at hdeep hlarge ⊢
  rw [hwhole] at hdeep hlarge ⊢
  split at hdeep
  · next hnesting =>
    rw [if_pos hnesting] at hlarge ⊢
    simp only [bind, Except.bind, hanchor] at hlarge ⊢
    split at hlarge
    · next hsmall => exact if_pos hsmall
    · exact absurd rfl hlarge
  · exact absurd rfl hdeep

/-- A pattern that ends in a comment does not compile behind the anchor. -/
theorem compile_anchored_comment (h : EndsInComment text) : compile (anchored text) = .error .unclosedGroup := by
  unfold compile
  rw [h.unclosed.2]
  rfl

end Pattern

open Pattern

namespace FilePattern

theorem exists_ofText?_iff (text : String) :
    (∃ p, ofText? text = .ok p) ↔
      (∃ e, compile text.toList = .ok e) ∧ ∃ e, compile (anchored text.toList) = .ok e := by
  constructor
  · rintro ⟨p, h⟩
    obtain ⟨e, hplain, h⟩ := bind_eq_ok_iff.mp h
    obtain ⟨whole, hwhole, -⟩ := bind_eq_ok_iff.mp h
    exact ⟨⟨e, hplain⟩, whole, hwhole⟩
  · rintro ⟨⟨e, hplain⟩, whole, hwhole⟩
    exact ⟨⟨text, whole⟩, bind_eq_ok_iff.mpr ⟨e, hplain, bind_eq_ok_iff.mpr ⟨whole, hwhole, rfl⟩⟩⟩

/-- **A text is accepted as a pattern for names exactly if it is a pattern by itself, does not end in a comment and is
within the limits behind the anchor.** The last line of a pattern that ends in a comment has the sign of one, and its
group is never closed. -/
theorem ofText?_accepts_iff (text : String) :
    ((∃ p, ofText? text = .ok p) ↔
        (∃ e, compile text.toList = .ok e) ∧ ¬ EndsInComment text.toList ∧ WithinLimits (anchored text.toList)) ∧
      (EndsInComment text.toList →
        SignInLastLine text.toList ∧ compile (anchored text.toList) = .error .unclosedGroup) := by
  rw [exists_ofText?_iff]
  refine ⟨⟨?_, ?_⟩, fun hcomment => ⟨hcomment.unclosed.1, compile_anchored_comment hcomment⟩⟩
  · rintro ⟨hplain, whole, hwhole⟩
    refine ⟨hplain, fun hcomment => ?_, ?_⟩
    · rw [compile_anchored_comment hcomment] at hwhole
      cases hwhole
    · unfold WithinLimits
      rw [hwhole]
      exact ⟨nofun, nofun⟩
  · rintro ⟨⟨e, hplain⟩, hcomment, hlimits⟩
    exact ⟨⟨e, hplain⟩, _, compile_anchored hplain hlimits hcomment⟩

/-- A pattern with a comment at its end. -/
def sampleComment : String := "(?x)a # b"

theorem compile_sampleComment :
    compile sampleComment.toList = .ok (.seq .empty (.chars ⟨[⟨97, 97⟩]⟩)) := by with_unfolding_all rfl

theorem sampleComment_endsInComment : EndsInComment sampleComment.toList :=
  ⟨.seq (.flags [(.spaced, true)]) (.literal 'a' false), by with_unfolding_all rfl, by with_unfolding_all rfl⟩

theorem sampleComment_withinLimits :
    WithinLimits sampleComment.toList ∧ WithinLimits (anchored sampleComment.toList) := by
  unfold WithinLimits
  rw [compile_sampleComment, compile_anchored_comment sampleComment_endsInComment]
  exact ⟨⟨nofun, nofun⟩, nofun, nofun⟩

/-- Not every pattern within the limits is a pattern for names. -/
theorem group_refuses_pattern :
    ¬ ∀ text : String, WithinLimits text.toList → WithinLimits (anchored text.toList) →
      ((∃ p, ofText? text = .ok p) ↔ ∃ e, compile text.toList = .ok e) := by
  intro h
  obtain ⟨p, hp⟩ := (h sampleComment sampleComment_withinLimits.1 sampleComment_withinLimits.2).mpr
    ⟨_, compile_sampleComment⟩
  obtain ⟨-, e, he⟩ := (exists_ofText?_iff sampleComment).mp ⟨p, hp⟩
  rw [compile_anchored_comment sampleComment_endsInComment] at he
  cases he

end FilePattern

end BuilderAudit
