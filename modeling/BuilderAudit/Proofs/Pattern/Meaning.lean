import BuilderAudit.Pattern.Resolve
import BuilderAudit.Proofs.Pattern.Marks
import BuilderAudit.Proofs.Unicode.CodeSet
import BuilderAudit.Text.Basic

/-!
# The meaning of syntax trees

`Ast.Matches flags` says what a pattern matches as it is written, under the flags that hold where it begins. It goes by
the syntax tree alone: an alternation is a choice, a group keeps its flags to itself, and a flag group sets the flags
for all that follows it in the group around it (`Ast.after`). Classes are conditions on code points (`ClassSet.Holds`)
and assertions are conditions on the text on both sides (`Assertion.Holds`).

* `ClassSet.contains_of_resolve` : the set of a class has the members that the class stands for;
* `Ast.resolved` : the expression of a syntax tree matches what the syntax tree means.
-/

namespace BuilderAudit.Pattern

/-! ## Letter case -/

namespace Flags

/-- Do the flags leave open which of the two code points it is? -/
def Alike (flags : Flags) (m n : Nat) : Prop :=
  if flags.ignoreCase then
    if flags.unicode then CodeSet.SameCase m n else CodeSet.lowerAscii m = CodeSet.lowerAscii n
  else m = n

/-- What the flags do not tell from a member of `s`. -/
def Folded (flags : Flags) (s : Nat → Prop) (n : Nat) : Prop := ∃ m, s m ∧ flags.Alike m n

variable {flags : Flags} {s t : CodeSet} {n : Nat}

theorem contains_fold_iff : (flags.fold s).contains n = true ↔ flags.Folded (s.contains · = true) n := by
  unfold fold Folded Alike
  cases flags.ignoreCase with
  | false =>
      constructor
      · intro h
        exact ⟨n, h, rfl⟩
      · rintro ⟨m, hm, rfl⟩
        exact hm
  | true =>
      cases flags.unicode with
      | false => exact CodeSet.contains_foldAsciiCase_iff
      | true => exact CodeSet.contains_foldCase_iff

end Flags

/-! ## Classes -/

/-- The members of `s`, or the scalar values that are none. -/
def Negated (negated : Bool) (s : Nat → Prop) (n : Nat) : Prop :=
  if negated then n.isValidChar ∧ ¬ s n else s n

/-- What the operation makes of two conditions. -/
def ClassOp.Holds : ClassOp → Prop → Prop → Prop
  | .inter, p, q => p ∧ q
  | .diff, p, q => p ∧ ¬ q
  | .symmDiff, p, q => ¬ (p ↔ q)

def PropertyHolds (query : Property.Query) (n : Nat) : Prop := ∃ set ∈ query.resolve, set.contains n = true

/-- The code point is in the class. -/
def ClassSet.Holds (flags : Flags) : ClassSet → Nat → Prop
  | empty, _ => False
  | literal c, n => n = c.toNat
  | range a b, n => a.toNat ≤ n ∧ n ≤ b.toNat
  | ascii kind negated, n => Negated negated (flags.Folded (kind.set.contains · = true)) n
  | escape kind negated, n => Negated negated ((kind.set flags).contains · = true) n
  | property query negated, n => Negated negated (flags.Folded (PropertyHolds query)) n
  | bracketed set negated, n => Negated negated (flags.Folded (set.Holds flags)) n
  | union item rest, n => item.Holds flags n ∨ rest.Holds flags n
  | combine op left right, n => op.Holds (flags.Folded (left.Holds flags) n) (flags.Folded (right.Holds flags) n)

section Classes

variable {flags : Flags} {s t : CodeSet} {negated : Bool} {n : Nat}

theorem contains_of_negate (h : flags.negate negated s = .ok t) :
    t.contains n = true ↔ Negated negated (s.contains · = true) n := by
  unfold Flags.negate at h
  cases negated with
  | false =>
      cases h
      exact Iff.rfl
  | true =>
      cases hunicode : flags.unicode with
      | false =>
          rw [hunicode] at h
          cases h
      | true =>
          rw [hunicode] at h
          cases h
          exact CodeSet.contains_compl_iff

theorem contains_apply_iff (op : ClassOp) :
    (op.apply s t).contains n = true ↔ op.Holds (s.contains n = true) (t.contains n = true) := by
  cases op with
  | inter =>
      rw [ClassOp.apply, CodeSet.contains_inter, Bool.and_eq_true]
      rfl
  | diff =>
      rw [ClassOp.apply, CodeSet.contains_diff, Bool.and_eq_true, Bool.not_eq_true', Bool.eq_false_iff]
      rfl
  | symmDiff =>
      rw [ClassOp.apply, CodeSet.contains_symmDiff, bne_iff_ne, Ne, Bool.eq_iff_iff]
      rfl

theorem contains_of_propertySet {query : Property.Query} (h : propertySet flags query negated = .ok s) :
    s.contains n = true ↔ (ClassSet.property query negated).Holds flags n := by
  unfold propertySet at h
  split at h
  · cases h
  · split at h
    · cases h
    · next set hset =>
      have hholds : PropertyHolds query = (set.contains · = true) := by
        funext m
        rw [PropertyHolds, hset]
        simp only [Option.mem_def, Option.some.injEq, exists_eq_left']
      rw [contains_of_negate h, ClassSet.Holds, hholds]
      simp only [Negated, Flags.contains_fold_iff]

theorem eq_of_classChar {c d : Char} (h : classChar flags c = .ok d) : c = d := by
  unfold classChar at h
  split at h
  · exact Except.ok.inj h
  · cases h

/-- The set of a class has the members that the class stands for. -/
theorem ClassSet.contains_of_resolve {set : ClassSet} (h : set.resolve flags = .ok s) (n : Nat) :
    s.contains n = true ↔ set.Holds flags n := by
  induction set generalizing s n with
  | empty =>
      cases h
      exact ⟨nofun, nofun⟩
  | literal c =>
      obtain ⟨d, hd, h⟩ := bind_eq_ok_iff.mp h
      obtain rfl := eq_of_classChar hd
      cases h
      exact CodeSet.contains_singleton_iff
  | range a b =>
      obtain ⟨c, hc, h⟩ := bind_eq_ok_iff.mp h
      obtain ⟨d, hd, h⟩ := bind_eq_ok_iff.mp h
      obtain rfl := eq_of_classChar hc
      obtain rfl := eq_of_classChar hd
      cases h
      exact CodeSet.contains_interval_iff
  | ascii kind negated =>
      rw [contains_of_negate h, Holds]
      simp only [Negated, Flags.contains_fold_iff]
  | escape kind negated => exact contains_of_negate h
  | property query negated => exact contains_of_propertySet h
  | bracketed set negated ih =>
      obtain ⟨t, ht, h⟩ := bind_eq_ok_iff.mp h
      rw [contains_of_negate h, Holds]
      simp only [Negated, Flags.contains_fold_iff, Flags.Folded, ih ht]
  | union item rest ihitem ihrest =>
      obtain ⟨t, ht, h⟩ := bind_eq_ok_iff.mp h
      obtain ⟨u, hu, h⟩ := bind_eq_ok_iff.mp h
      cases h
      rw [CodeSet.contains_union, Bool.or_eq_true, ihitem ht, ihrest hu, Holds]
  | combine op left right ihleft ihright =>
      obtain ⟨t, ht, h⟩ := bind_eq_ok_iff.mp h
      obtain ⟨u, hu, h⟩ := bind_eq_ok_iff.mp h
      cases h
      rw [contains_apply_iff, Holds]
      simp only [Flags.contains_fold_iff, Flags.Folded, ihleft ht, ihright hu]

end Classes

/-! ## Assertions -/

/-- The condition holds between the text before, given backwards, and the text after. -/
def Assertion.Holds (flags : Flags) : Assertion → List Char → List Char → Prop
  | lineStart, before, after =>
      before = [] ∨ flags.multiLine = true ∧ (before.head? = some '\n' ∨
        flags.crlf = true ∧ before.head? = some '\r' ∧ after.head? ≠ some '\n')
  | lineEnd, before, after =>
      after = [] ∨ flags.multiLine = true ∧ (flags.crlf = true ∧ after.head? = some '\r' ∨
        after.head? = some '\n' ∧ ¬ (flags.crlf = true ∧ before.head? = some '\r'))
  | textStart, before, _ => before = []
  | textEnd, _, after => after = []
  | wordBoundary, before, after =>
      ¬ (flags.wordKind.isWord before.head? = true ↔ flags.wordKind.isWord after.head? = true)
  | notWordBoundary, before, after =>
      flags.wordKind.isWord before.head? = true ↔ flags.wordKind.isWord after.head? = true
  | wordStart, before, after => ¬ flags.wordKind.isWord before.head? = true ∧ flags.wordKind.isWord after.head? = true
  | wordEnd, before, after => flags.wordKind.isWord before.head? = true ∧ ¬ flags.wordKind.isWord after.head? = true
  | wordStartHalf, before, _ => ¬ flags.wordKind.isWord before.head? = true
  | wordEndHalf, _, after => ¬ flags.wordKind.isWord after.head? = true

theorem holds_look_iff (flags : Flags) (kind : Assertion) (before after : List Char) :
    (kind.look flags).holds before.head? after.head? = true ↔ kind.Holds flags before after := by
  cases kind with
  | lineStart =>
      unfold Assertion.look Assertion.Holds
      cases flags.multiLine <;> cases flags.crlf <;> simp [Look.holds, or_assoc]
  | lineEnd =>
      unfold Assertion.look Assertion.Holds
      cases flags.multiLine <;> cases flags.crlf <;> simp [Look.holds, or_assoc]
  | textStart => simp [Assertion.look, Assertion.Holds, Look.holds]
  | textEnd => simp [Assertion.look, Assertion.Holds, Look.holds]
  | wordBoundary =>
      show (_ != _) = true ↔ _
      rw [bne_iff_ne, Ne, Bool.eq_iff_iff]
      rfl
  | notWordBoundary =>
      show (_ == _) = true ↔ _
      rw [beq_iff_eq, Bool.eq_iff_iff]
      rfl
  | wordStart => simp [Assertion.look, Assertion.Holds, Look.holds]
  | wordEnd => simp [Assertion.look, Assertion.Holds, Look.holds]
  | wordStartHalf => simp [Assertion.look, Assertion.Holds, Look.holds]
  | wordEndHalf => simp [Assertion.look, Assertion.Holds, Look.holds]

/-! ## Syntax trees -/

namespace Ast

/-- The flags that hold after the pattern. -/
def after (flags : Flags) : Ast → Flags
  | .flags change => flags.apply change
  | repetition e _ _ => e.after flags
  | seq e f | alt e f => f.after (e.after flags)
  | _ => flags

/-- What the pattern matches as it is written. -/
def Matches (flags : Flags) : Ast → Span
  | empty | .flags _ => Span.nothing
  | literal c _ => Span.oneOf fun d => flags.Alike c.toNat d.toNat
  | dot => Span.oneOf fun d => flags.dotAll = true ∨ d ≠ '\n' ∧ ¬ (flags.crlf = true ∧ d = '\r')
  | assertion kind => Span.place (kind.Holds flags)
  | escape kind negated => Span.oneOf fun d => (ClassSet.escape kind negated).Holds flags d.toNat
  | property query negated => Span.oneOf fun d => (ClassSet.property query negated).Holds flags d.toNat
  | bracketed set negated => Span.oneOf fun d => (ClassSet.bracketed set negated).Holds flags d.toNat
  | repetition e min max => (e.Matches flags).repeated min max
  | group change _ e => e.Matches (flags.apply change)
  | seq e f => (e.Matches flags).andThen (f.Matches (e.after flags))
  | alt e f => (e.Matches flags).either (f.Matches (e.after flags))

/-- The least count of every repetition is at most its greatest one. -/
def Ordered : Ast → Prop
  | repetition e min max => e.Ordered ∧ ∀ m ∈ max, min ≤ m
  | group _ _ e => e.Ordered
  | seq e f | alt e f => e.Ordered ∧ f.Ordered
  | _ => True

/-- The flags and the expression are those of the pattern. -/
structure Resolved (flags : Flags) (ast : Ast) (flags' : Flags) (e : Expr) : Prop where
  after_eq : ast.after flags = flags'
  matches_eq : e.Matches = ast.Matches flags
  ordered : ast.Ordered → e.Ordered

variable {flags flags' : Flags} {e : Expr}

theorem containsChar_literalSet_iff {c d : Char} {isByte : Bool} {set : CodeSet}
    (h : literalSet flags c isByte = .ok set) :
    set.containsChar d = true ↔ flags.Alike c.toNat d.toNat := by
  unfold literalSet at h
  split at h
  · cases h
  · cases h
    rw [CodeSet.containsChar, Flags.contains_fold_iff]
    simp only [Flags.Folded, CodeSet.contains_singleton_iff, exists_eq_left]

theorem containsChar_dotSet_iff (flags : Flags) (d : Char) :
    (dotSet flags).containsChar d = true ↔ flags.dotAll = true ∨ d ≠ '\n' ∧ ¬ (flags.crlf = true ∧ d = '\r') := by
  have hvalid : d.toNat.isValidChar := d.valid
  have hcompl : ∀ set : CodeSet, set.compl.contains d.toNat = true ↔ ¬ set.contains d.toNat = true :=
    fun set => CodeSet.contains_compl_iff.trans (and_iff_right hvalid)
  have hline : d = '\n' ↔ d.toNat = 0x0A := Char.toNat_inj.symm
  have hreturn : d = '\r' ↔ d.toNat = 0x0D := Char.toNat_inj.symm
  unfold dotSet CodeSet.containsChar
  cases flags.dotAll with
  | true => exact ⟨fun _ => .inl rfl, fun _ => CodeSet.contains_scalars_iff.mpr hvalid⟩
  | false =>
      rw [Ne, hline, hreturn]
      cases flags.crlf with
      | true =>
          simp only [Bool.false_eq_true, if_false, if_true, hcompl, false_or, true_and]
          simp only [CodeSet.contains, List.any_cons, List.any_nil, Bool.or_false, Bool.or_eq_true,
            CodeRange.contains_iff]
          omega
      | false =>
          simp only [Bool.false_eq_true, if_false, hcompl, false_or, false_and, not_false_eq_true, and_true]
          simp only [CodeSet.contains, List.any_cons, List.any_nil, Bool.or_false, CodeRange.contains_iff]
          omega

theorem resolved_chars {flags : Flags} {ast : Ast} {set : CodeSet} {s : Char → Prop} (hafter : ast.after flags = flags)
    (hmatches : ast.Matches flags = Span.oneOf s) (hset : ∀ c, set.containsChar c = true ↔ s c) :
    Resolved flags ast flags (.chars set) := by
  refine ⟨hafter, ?_, fun _ => trivial⟩
  rw [Expr.matches_chars, hmatches]
  congr
  funext c
  exact propext (hset c)

/-- The expression of a syntax tree matches what the syntax tree means. -/
theorem resolved {ast : Ast} (h : ast.resolve flags = .ok (flags', e)) : Resolved flags ast flags' e := by
  induction ast generalizing flags flags' e with
  | empty =>
      cases h
      exact ⟨rfl, Expr.matches_empty, fun _ => trivial⟩
  | flags change =>
      cases h
      exact ⟨rfl, Expr.matches_empty, fun _ => trivial⟩
  | literal c isByte =>
      obtain ⟨set, hset, h⟩ := bind_eq_ok_iff.mp h
      cases h
      exact resolved_chars rfl rfl fun d => containsChar_literalSet_iff hset
  | dot =>
      unfold resolve at h
      split at h
      · cases h
        exact resolved_chars rfl rfl (containsChar_dotSet_iff flags)
      · cases h
  | assertion kind =>
      cases h
      refine ⟨rfl, ?_, fun _ => trivial⟩
      rw [Expr.matches_look]
      simp only [holds_look_iff]
      rfl
  | escape kind negated =>
      obtain ⟨set, hset, h⟩ := bind_eq_ok_iff.mp h
      cases h
      exact resolved_chars rfl rfl fun c => contains_of_negate hset
  | property query negated =>
      obtain ⟨set, hset, h⟩ := bind_eq_ok_iff.mp h
      cases h
      exact resolved_chars rfl rfl fun c => contains_of_propertySet hset
  | bracketed set negated =>
      obtain ⟨set, hset, h⟩ := bind_eq_ok_iff.mp h
      cases h
      exact resolved_chars rfl rfl fun c => ClassSet.contains_of_resolve hset c.toNat
  | repetition e min max ih =>
      obtain ⟨⟨between, f⟩, hf, h⟩ := bind_eq_ok_iff.mp h
      cases h
      have hf := ih hf
      refine ⟨hf.after_eq, ?_, fun h => ⟨hf.ordered h.1, h.2⟩⟩
      rw [Expr.matches_repetition, hf.matches_eq]
      rfl
  | group change captures e ih =>
      obtain ⟨⟨between, f⟩, hf, h⟩ := bind_eq_ok_iff.mp h
      cases h
      have hf := ih hf
      cases captures with
      | false => exact ⟨rfl, hf.matches_eq, hf.ordered⟩
      | true => exact ⟨rfl, (Expr.matches_capture f).trans hf.matches_eq, hf.ordered⟩
  | seq item rest ihitem ihrest =>
      obtain ⟨⟨between, f⟩, hf, h⟩ := bind_eq_ok_iff.mp h
      obtain ⟨⟨last, g⟩, hg, h⟩ := bind_eq_ok_iff.mp h
      cases h
      have hf := ihitem hf
      have hg := ihrest hg
      obtain rfl := hf.after_eq
      refine ⟨hg.after_eq, ?_, fun h => ⟨hf.ordered h.1, hg.ordered h.2⟩⟩
      rw [Expr.matches_seq, hf.matches_eq, hg.matches_eq]
      rfl
  | alt branch rest ihbranch ihrest =>
      obtain ⟨⟨between, f⟩, hf, h⟩ := bind_eq_ok_iff.mp h
      obtain ⟨⟨last, g⟩, hg, h⟩ := bind_eq_ok_iff.mp h
      cases h
      have hf := ihbranch hf
      have hg := ihrest hg
      obtain rfl := hf.after_eq
      refine ⟨hg.after_eq, ?_, fun h => ⟨hf.ordered h.1, hg.ordered h.2⟩⟩
      rw [Expr.matches_alt, hf.matches_eq, hg.matches_eq]
      rfl

end Ast

end BuilderAudit.Pattern
