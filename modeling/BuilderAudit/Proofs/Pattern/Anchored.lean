import BuilderAudit.Pattern.FilePattern
import BuilderAudit.Proofs.Pattern.Counts
import BuilderAudit.Proofs.Pattern.Enclosed

/-!
# Patterns behind their anchor

The text of a pattern for names is put into a group behind an anchor, as text. What is read then is the anchor and the
syntax tree of the pattern itself in a group (`parse_anchored`): no bar, flag or group in it gets out. The group keeps
the flags to itself and the anchor stands before them, so a name is searched for the meaning of the pattern at its
start.

* `accepts_iff` : **a name is accepted if and only if the pattern matches at its start.**
-/

namespace BuilderAudit

namespace Pattern

def anchorGroup : OpenGroup := ⟨[], false, [.assertion .lineStart], [], false⟩

theorem run_anchored (text : List Char) :
    Progress.start.run (anchored text) = (Progress.start.inside anchorGroup).run (text ++ [')']) := by
  have htext : anchored text = '^' :: '(' :: '?' :: ':' :: (text ++ [')']) := rfl
  rw [htext, Progress.run_eq]
  show (Progress.start.add (.assertion .lineStart)).run ('(' :: '?' :: ':' :: (text ++ [')'])) = _
  rw [Progress.run_eq]
  rfl

/-- The anchored text is read as the anchor and the pattern in a group, if it is read at all. -/
theorem parse_anchored {text : List Char} {ast whole : Ast} (h : parse text = .ok ast)
    (hwhole : parse (anchored text) = .ok whole) : whole = .seq (.assertion .lineStart) (.group [] false ast) := by
  obtain ⟨ast', hrun, h⟩ := bind_eq_ok_iff.mp h
  split at h
  · cases h
    obtain ⟨whole', hrun', hwhole⟩ := bind_eq_ok_iff.mp hwhole
    split at hwhole
    · cases hwhole
      rw [run_anchored] at hrun'
      rcases Progress.run_closed anchorGroup (Closed.append text id) hrun with ⟨hclosed, -⟩ | ⟨-, herror, -⟩
      · cases hrun'.symm.trans hclosed
        rfl
      · cases hrun'.symm.trans herror
    · cases hwhole
  · cases h

/-- Behind the anchor the pattern is resolved under the flags at the start of a pattern. -/
theorem resolve_anchored {ast : Ast} {flags : Flags} {whole : Expr}
    (h : (Ast.seq (.assertion .lineStart) (.group [] false ast)).resolve Flags.initial = .ok (flags, whole)) :
    ∃ flags' e, ast.resolve Flags.initial = .ok (flags', e) ∧ whole = .seq (.look .textStart) e := by
  obtain ⟨_, hanchor, h⟩ := bind_eq_ok_iff.mp h
  cases hanchor
  obtain ⟨_, hgroup, hwhole⟩ := bind_eq_ok_iff.mp h
  obtain ⟨⟨flags', e⟩, he, hgroup⟩ := bind_eq_ok_iff.mp hgroup
  cases hgroup
  cases hwhole
  exact ⟨flags', e, he, rfl⟩

theorem of_compile_eq_ok {text : List Char} {e : Expr} (h : compile text = .ok e) :
    ∃ ast flags, parse text = .ok ast ∧ ast.resolve Flags.initial = .ok (flags, e) := by
  obtain ⟨ast, hast, h⟩ := bind_eq_ok_iff.mp h
  obtain ⟨⟨flags, e'⟩, he, hsmall⟩ := bind_eq_ok_iff.mp h
  simp only at hsmall
  split at hsmall
  · cases hsmall
    exact ⟨ast, flags, hast, he⟩
  · cases hsmall

/-- An anchored expression matches somewhere in a text if and only if it matches at the start. -/
theorem matches_anchored_iff (e : Expr) (text : List Char) :
    (∃ u v w, text = u ++ (v ++ w) ∧ (Expr.seq (.look .textStart) e).Matches u.reverse v w) ↔
      ∃ taken rest, text = taken ++ rest ∧ e.Matches [] taken rest := by
  rw [Expr.matches_seq, Expr.matches_look]
  constructor
  · rintro ⟨u, v, w, rfl, _, v, rfl, ⟨rfl, hstart⟩, hv⟩
    have hu : u.reverse = [] := List.head?_eq_none_iff.mp (Option.isNone_iff_eq_none.mp hstart)
    rw [hu] at hv
    obtain rfl := List.reverse_eq_nil_iff.mp hu
    exact ⟨v, w, rfl, hv⟩
  · rintro ⟨taken, rest, rfl, h⟩
    exact ⟨[], taken, rest, rfl, [], taken, rfl, ⟨rfl, rfl⟩, h⟩

end Pattern

open Pattern

namespace FilePattern

/-- **A name is accepted if and only if the pattern itself matches at its start**, under its own flags and with its
assertions held against the whole name. The anchored text is the anchor before the pattern in a group. -/
theorem accepts_iff {text : String} {p : FilePattern} (h : ofText? text = .ok p) :
    ∃ ast, parse text.toList = .ok ast ∧
      parse (anchored text.toList) = .ok (.seq (.assertion .lineStart) (.group [] false ast)) ∧
      ∀ name, p.accepts name = true ↔ ∃ taken rest, name = taken ++ rest ∧ ast.Matches Flags.initial [] taken rest := by
  obtain ⟨_, hplain, h⟩ := bind_eq_ok_iff.mp h
  obtain ⟨whole, hwhole, h⟩ := bind_eq_ok_iff.mp h
  cases h
  obtain ⟨ast, _, hast, _⟩ := of_compile_eq_ok hplain
  obtain ⟨tree, _, htree, hresolve⟩ := of_compile_eq_ok hwhole
  obtain rfl := parse_anchored hast htree
  have hordered := (Ast.resolved hresolve).ordered (parse_ordered htree)
  obtain ⟨_, e, he, rfl⟩ := resolve_anchored hresolve
  refine ⟨ast, hast, htree, fun name => ?_⟩
  rw [← (Ast.resolved he).matches_eq, ← matches_anchored_iff]
  exact Expr.occursIn_marked hordered name

/-- A pattern with a flag and a bar, both outside of all groups. -/
def sampleFilePattern : FilePattern where
  text := "(?m)a|^b"
  expr := .seq (.look .textStart)
    (.alt (.seq .empty (.chars ⟨[⟨97, 97⟩]⟩)) (.seq (.look .lineStart) (.chars ⟨[⟨98, 98⟩]⟩)))

theorem ofText?_sampleFilePattern : ofText? "(?m)a|^b" = .ok sampleFilePattern := by with_unfolding_all rfl

theorem sampleFilePattern_accepts :
    ∃ ast, parse "(?m)a|^b".toList = .ok ast ∧
      parse (anchored "(?m)a|^b".toList) = .ok (.seq (.assertion .lineStart) (.group [] false ast)) ∧
      ∀ name, sampleFilePattern.accepts name = true ↔
        ∃ taken rest, name = taken ++ rest ∧ ast.Matches Flags.initial [] taken rest :=
  accepts_iff ofText?_sampleFilePattern

end FilePattern

end BuilderAudit
