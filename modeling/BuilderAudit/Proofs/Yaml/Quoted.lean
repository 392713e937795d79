import BuilderAudit.Proofs.Json.Words
import BuilderAudit.Yaml.Scalar
import Mathlib

/-!
# JSON strings as quoted scalars of YAML

What is written in quotes for JSON is a scalar in double quotes with the same text, unless a character is in it that
JSON writes as it is and YAML does not take as it is. The only white space that JSON leaves inside quotes is the space:
a quoted scalar falls into words and spaces, and its lines are never folded.

* `Literal` : the characters that YAML takes as they are;
* `quotedPart?_escapeChar`, `quotedWord?_flatMap`, `gapFrom?_spaces` : characters, words and spaces;
* `quoted?_quoted` : whole scalars;
* `isPrintable_quoted` : what is written may stand in a YAML text.
-/

namespace BuilderAudit.Yaml

open Json (escapeChar hexDigit hexValue?_of_isHexDigit isHexDigit_hexDigit quoted shortEscapes)

/-- YAML takes the character as it is inside quotes, or JSON escapes it: it is none of `U+007F` to `U+009F`, no line or
paragraph separator, no byte order mark and none of the last two of the first 65536 characters. -/
def Literal (c : Char) : Prop :=
  ¬ (0x7F ≤ c.toNat ∧ c.toNat ≤ 0x9F) ∧ c ∉ ['\u2028', '\u2029', '\uFEFF', '\uFFFE', '\uFFFF']

instance : DecidablePred Literal := fun _ => inferInstanceAs (Decidable (_ ∧ _))

/-! ## Cursors -/

namespace Cursor

@[simp] theorem rest_drop (c : Cursor) (n : Nat) : (c.drop n).rest = c.rest.drop n := rfl

@[simp] theorem index_drop (c : Cursor) (n : Nat) : (c.drop n).index = c.index + n := rfl

@[simp] theorem line_drop (c : Cursor) (n : Nat) : (c.drop n).line = c.line := rfl

@[simp] theorem drop_drop (c : Cursor) (m n : Nat) : (c.drop m).drop n = c.drop (m + n) := by
  simp only [drop, List.drop_drop, Nat.add_assoc]

@[simp] theorem drop_zero (c : Cursor) : c.drop 0 = c := rfl

theorem rest_drop_length {c : Cursor} {cs rest : List Char} (h : c.rest = cs ++ rest) :
    (c.drop cs.length).rest = rest := by
  rw [rest_drop, h, List.drop_left]

theorem rest_skip {c : Cursor} {ch : Char} {rest : List Char} (h : c.rest = ch :: rest) : c.skip.rest = rest := by
  rw [skip, rest_drop, h, List.drop_one, List.tail_cons]

theorem rest_drop_replicate {c : Cursor} {n : Nat} {ch : Char} {rest : List Char}
    (h : c.rest = List.replicate n ch ++ rest) : (c.drop n).rest = rest := by
  rw [rest_drop, h, List.drop_left' List.length_replicate]

end Cursor

variable {c : Cursor} {ch : Char} {cs s word rest : List Char}

/-! ## Characters -/

/-- A control character is read by its number. -/
theorem numbered?_unit (hch : ch.toNat < 0x20)
    (h : c.rest = '0' :: '0' :: hexDigit (ch.toNat / 16) :: hexDigit (ch.toNat % 16) :: rest) :
    numbered? 4 c = some (ch, c.drop 4) := by
  have hhigh := hexValue?_of_isHexDigit (isHexDigit_hexDigit (n := ch.toNat / 16) (by omega))
  have hlow := hexValue?_of_isHexDigit (isHexDigit_hexDigit (n := ch.toNat % 16) (by omega))
  have hzero : hexValue? '0' = some 0 := by decide
  have hvalue : ch.toNat / 16 * 16 + ch.toNat % 16 = ch.toNat := Nat.div_add_mod' ch.toNat 16
  have hvalid : ch.toNat.isValidChar := ch.valid
  simp [numbered?, h, hzero, hhigh, hlow, hvalue, hvalid]

theorem quotedPart?_escape {next : Cursor} (hbreak : cs.head?.any isBreak = false) (h : c.rest = '\\' :: cs)
    (hescape : escape? c.skip = some (ch, next)) : quotedPart? '"' c = some (.char ch, next) := by
  simp [quotedPart?, h, isGap, isBreak, hbreak, hescape]

theorem quotedPart?_short {e : Char} (he : (e, ch) ∈ shortEscapes) (h : c.rest = ['\\', e] ++ rest) :
    quotedPart? '"' c = some (.char ch, c.drop 2) := by
  simp only [shortEscapes, List.mem_cons, Prod.mk.injEq, List.not_mem_nil, or_false] at he
  rcases he with ⟨rfl, rfl⟩ | ⟨rfl, rfl⟩ | ⟨rfl, rfl⟩ | ⟨rfl, rfl⟩ | ⟨rfl, rfl⟩ | ⟨rfl, rfl⟩ | ⟨rfl, rfl⟩ |
    ⟨rfl, rfl⟩ <;>
    exact quotedPart?_escape rfl h (by simp [escape?, Cursor.head?, Cursor.skip, h, escapedChar?])

/-- Line ends among the literal characters are escaped. -/
theorem isBreak_of_literal (hch : Literal ch) (hcontrol : ¬ ch.toNat < 0x20) : isBreak ch = false := by
  obtain ⟨hrange, hsigns⟩ := hch
  simp only [List.mem_cons, List.not_mem_nil, or_false, not_or] at hsigns
  have hnel : ch ≠ '\x85' := by rintro rfl; exact hrange (by decide)
  have hcr : ch ≠ '\r' := by rintro rfl; exact hcontrol (by decide)
  have hlf : ch ≠ '\n' := by rintro rfl; exact hcontrol (by decide)
  simp [isBreak, hnel, hcr, hlf, hsigns.1, hsigns.2.1]

/-- A character that is no space is read as it is written. -/
theorem quotedPart?_escapeChar (hch : Literal ch) (hspace : ch ≠ ' ') (h : c.rest = escapeChar ch ++ rest) :
    quotedPart? '"' c = some (.char ch, c.drop (escapeChar ch).length) := by
  unfold escapeChar at h ⊢
  split_ifs at h ⊢ with h1 h2 h3 h4 h5 h6 h7 h8
  · exact quotedPart?_short (by simp [shortEscapes, h1]) h
  · exact quotedPart?_short (by simp [shortEscapes, h2]) h
  · exact quotedPart?_short (by simp [shortEscapes, h3]) h
  · exact quotedPart?_short (by simp [shortEscapes, h4]) h
  · exact quotedPart?_short (by simp [shortEscapes, h5]) h
  · exact quotedPart?_short (by simp [shortEscapes, h6]) h
  · exact quotedPart?_short (by simp [shortEscapes, h7]) h
  · have hdigits : (c.drop 2).rest = '0' :: '0' :: hexDigit (ch.toNat / 16) :: hexDigit (ch.toNat % 16) :: rest := by
      rw [Cursor.rest_drop, h]
      rfl
    exact quotedPart?_escape rfl h (by simp [escape?, Cursor.head?, Cursor.skip, h, numbered?_unit h8 hdigits])
  · simp [quotedPart?, h, isGap, hspace, h4, isBreak_of_literal hch h8, h1, h2, Cursor.skip]

theorem quotedPart?_stop (h : c.rest.head? = some ' ' ∨ c.rest.head? = some '"') :
    quotedPart? '"' c = some (.stop, c) := by
  obtain ⟨rest, h⟩ | ⟨rest, h⟩ := h.imp List.head?_eq_some_iff.mp List.head?_eq_some_iff.mp
  · simp [quotedPart?, h, isGap]
  · simp [quotedPart?, h, isGap, isBreak]

/-! ## Words and spaces -/

theorem escapeChar_ne_nil (ch : Char) : escapeChar ch ≠ [] := by
  unfold escapeChar
  split_ifs <;> simp

theorem quotedWord?_flatMap (hword : ∀ ch ∈ word, Literal ch ∧ ch ≠ ' ') (h : c.rest = word.flatMap escapeChar ++ rest)
    (hrest : rest.head? = some ' ' ∨ rest.head? = some '"') :
    quotedWord? '"' c = some (word, false, c.drop (word.flatMap escapeChar).length) := by
  induction word generalizing c with
  | nil =>
      rw [quotedWord?, quotedPart?_stop (h ▸ hrest)]
      rfl
  | cons ch word ih =>
      obtain ⟨⟨hch, hspace⟩, hword⟩ := List.forall_mem_cons.mp hword
      rw [List.flatMap_cons, List.append_assoc] at h
      have hpos := List.length_pos_iff.mpr (escapeChar_ne_nil ch)
      have hne : c.rest.length ≠ 0 := by
        rw [h, List.length_append]
        omega
      rw [quotedWord?, quotedPart?_escapeChar hch hspace h]
      simp only [Cursor.rest_drop, List.length_drop]
      rw [if_pos (by omega), ih hword (Cursor.rest_drop_length h)]
      simp

theorem gapFrom?_space {indent : Nat} {blanks : List Char} (h : c.head? = some ' ') :
    gapFrom? indent ⟨false, blanks, [], []⟩ c = gapFrom? indent ⟨false, blanks ++ [' '], [], []⟩ c.skip := by
  rw [gapFrom?]
  split
  · next hnone => rw [h] at hnone; cases hnone
  · next hsome =>
    rw [h, Option.some.injEq] at hsome
    subst hsome
    simp [isGap]

theorem gapFrom?_stop {indent : Nat} {g : Gap} (h : ∀ ch ∈ c.head?, isGap ch = false ∧ isBreak ch = false) :
    gapFrom? indent g c = some (g, c) := by
  rw [gapFrom?]
  split
  · rfl
  · next hsome => simp [h _ hsome]

theorem gapFrom?_spaces {indent n : Nat} {blanks : List Char} (h : c.rest = List.replicate n ' ' ++ rest)
    (hrest : ∀ ch ∈ rest.head?, isGap ch = false ∧ isBreak ch = false) :
    gapFrom? indent ⟨false, blanks, [], []⟩ c = some (⟨false, blanks ++ List.replicate n ' ', [], []⟩, c.drop n) := by
  induction n generalizing c blanks with
  | zero =>
      rw [gapFrom?_stop (by rwa [Cursor.head?, h]), List.replicate_zero, List.append_nil, Cursor.drop_zero]
  | succ n ih =>
      rw [List.replicate_succ, List.cons_append] at h
      rw [gapFrom?_space (by rw [Cursor.head?, h]; rfl), Cursor.skip, ih (c := c.drop 1) (Cursor.rest_skip h),
        Cursor.drop_drop, Nat.add_comm, List.replicate_succ, List.append_assoc, List.singleton_append]

/-! ## Whole scalars -/

theorem exists_spaces (s : List Char) : ∃ n more, s = List.replicate n ' ' ++ more ∧ more.head? ≠ some ' ' := by
  induction s with
  | nil => exact ⟨0, [], rfl, by simp⟩
  | cons ch s ih =>
      by_cases hch : ch = ' '
      · obtain ⟨n, more, rfl, hmore⟩ := ih
        exact ⟨n + 1, more, by rw [hch]; rfl, hmore⟩
      · exact ⟨0, ch :: s, rfl, by simpa using hch⟩

theorem head?_escapeChar {ch : Char} (hch : Literal ch) (hspace : ch ≠ ' ') :
    ∀ e ∈ (escapeChar ch).head?, isGap e = false ∧ isBreak e = false := by
  unfold escapeChar
  split_ifs with h1 h2 h3 h4 h5 h6 h7 h8
  iterate 8 simp [isGap, isBreak]
  simp [isGap, hspace, h4, isBreak_of_literal hch h8]

/-- Behind the spaces of a text stands a character that is no white space. -/
theorem head?_flatMap (hs : ∀ ch ∈ s, Literal ch) (hspace : s.head? ≠ some ' ') :
    ∀ e ∈ (s.flatMap escapeChar ++ '"' :: rest).head?, isGap e = false ∧ isBreak e = false := by
  cases s with
  | nil => simp [isGap, isBreak]
  | cons ch s =>
      have hch := head?_escapeChar (hs ch List.mem_cons_self) (by simpa using hspace)
      obtain ⟨e, es, he⟩ := List.exists_cons_of_ne_nil (escapeChar_ne_nil ch)
      rw [he] at hch
      simpa [he] using hch

theorem flatMap_spaces (n : Nat) : (List.replicate n ' ').flatMap escapeChar = List.replicate n ' ' := by
  induction n with
  | zero => rfl
  | succ n ih => rw [List.replicate_succ, List.flatMap_cons, ih]; rfl

theorem atDocumentSign_of_column (h : 0 < c.column) : c.atDocumentSign = false := by
  simp [Cursor.atDocumentSign, Nat.ne_of_gt h]

section Steps

variable {text : List Char} (hword : ∀ ch ∈ word, Literal ch ∧ ch ≠ ' ') (hcolumn : 0 < c.column)
include hword hcolumn

/-- The last word of a scalar. -/
theorem quotedFrom?_last (h : c.rest = word.flatMap escapeChar ++ '"' :: rest) :
    quotedFrom? '"' text c = some (text ++ word, c.drop ((word.flatMap escapeChar).length + 1)) := by
  have hquote : (c.drop (word.flatMap escapeChar).length).head? = some '"' := by
    rw [Cursor.head?, Cursor.rest_drop_length h, List.head?_cons]
  rw [quotedFrom?, atDocumentSign_of_column hcolumn, if_neg Bool.false_ne_true,
    quotedWord?_flatMap hword h (Or.inr rfl)]
  simp only [hquote, if_true, Cursor.skip, Cursor.drop_drop]

/-- A word with spaces behind it. -/
theorem quotedFrom?_next {n : Nat} (h : c.rest = word.flatMap escapeChar ++ (List.replicate (n + 1) ' ' ++ rest))
    (hrest : ∀ e ∈ rest.head?, isGap e = false ∧ isBreak e = false) :
    quotedFrom? '"' text c = quotedFrom? '"' (text ++ word ++ List.replicate (n + 1) ' ')
      (c.drop ((word.flatMap escapeChar).length + (n + 1))) := by
  have hspaces := Cursor.rest_drop_length h
  have hspace : (c.drop (word.flatMap escapeChar).length).head? ≠ some '"' := by
    rw [Cursor.head?, hspaces]
    simp [List.replicate_succ]
  have hshorter : (c.drop ((word.flatMap escapeChar).length + (n + 1))).rest.length < c.rest.length := by
    rw [Cursor.rest_drop, List.length_drop, h]
    simp only [List.length_append, List.length_replicate]
    omega
  rw [quotedFrom?, atDocumentSign_of_column hcolumn, if_neg Bool.false_ne_true,
    quotedWord?_flatMap hword h (Or.inl rfl)]
  simp only [if_neg hspace, Gap.none, gapFrom?_spaces hspaces hrest, Cursor.drop_drop, if_pos hshorter]
  rfl

end Steps

theorem quotedFrom?_flatMap {text : List Char} (hs : ∀ ch ∈ s, Literal ch) (hcolumn : 0 < c.column)
    (h : c.rest = s.flatMap escapeChar ++ '"' :: rest) :
    quotedFrom? '"' text c = some (text ++ s, c.drop ((s.flatMap escapeChar).length + 1)) := by
  -- A word and all spaces behind it are read in one step, so the induction is on the length and not on the list.
  induction hlength : s.length using Nat.strongRecOn generalizing s text c with
  | ind length ih =>
  subst hlength
  by_cases hspace : ' ' ∈ s
  · obtain ⟨word, behind, rfl, hword⟩ := List.eq_append_cons_of_mem hspace
    obtain ⟨n, more, rfl, hmore⟩ := exists_spaces behind
    have hsplit : word ++ ' ' :: (List.replicate n ' ' ++ more) = word ++ (List.replicate (n + 1) ' ' ++ more) := rfl
    rw [hsplit] at h hs ih ⊢
    rw [List.forall_mem_append, List.forall_mem_append] at hs
    rw [List.flatMap_append, List.flatMap_append, flatMap_spaces, List.append_assoc, List.append_assoc] at h
    have hrest := Cursor.rest_drop_length (List.append_assoc _ _ _ ▸ h)
    rw [List.length_append, List.length_replicate] at hrest
    rw [quotedFrom?_next (fun ch hch => ⟨hs.1 ch hch, fun he => hword (he ▸ hch)⟩) hcolumn h
      (head?_flatMap hs.2.2 hmore), ih more.length (by simp; omega) hs.2.2 (Nat.lt_add_right _ hcolumn) hrest rfl]
    simp only [List.append_assoc, List.flatMap_append, flatMap_spaces, List.length_append, List.length_replicate,
      Cursor.drop_drop, Nat.add_assoc]
  · exact quotedFrom?_last (fun ch hch => ⟨hs ch hch, fun he => hspace (he ▸ hch)⟩) hcolumn h

/-- **What JSON writes in quotes is a scalar with the same text.** -/
theorem quoted?_quoted (hs : ∀ ch ∈ s, Literal ch) (h : c.rest = quoted s ++ rest) :
    quoted? '"' c.skip = some (s, c.drop (quoted s).length) := by
  have hrest : c.skip.rest = s.flatMap escapeChar ++ '"' :: rest := by
    rw [Json.quoted_append] at h
    exact Cursor.rest_skip h
  rw [quoted?, quotedFrom?_flatMap hs (Nat.succ_pos _) hrest, List.nil_append, Cursor.skip, Cursor.drop_drop]
  simp [quoted, Nat.add_comm]

/-! ## Printable texts -/

theorem isPrintable_hexDigit {n : Nat} (h : n < 16) : isPrintable (hexDigit n) = true := by
  have hall : ∀ n < 16, isPrintable (hexDigit n) = true := by decide
  exact hall n h

theorem isPrintable_of_literal {ch : Char} (hch : Literal ch) (hcontrol : ¬ ch.toNat < 0x20) :
    isPrintable ch = true := by
  obtain ⟨hrange, hsigns⟩ := hch
  simp only [List.mem_cons, List.not_mem_nil, or_false, not_or] at hsigns
  have hsign {d : Char} (h : ch ≠ d) : ch.toNat ≠ d.toNat := fun he => h (Char.toNat_inj.mp he)
  have h1 : ch.toNat ≠ 0xFFFE := hsign hsigns.2.2.2.1
  have h2 : ch.toNat ≠ 0xFFFF := hsign hsigns.2.2.2.2
  simp only [isPrintable, Bool.or_eq_true, Bool.and_eq_true, decide_eq_true_eq]
  omega

theorem isPrintable_escapeChar {ch : Char} (hch : Literal ch) : (escapeChar ch).all isPrintable = true := by
  unfold escapeChar
  split_ifs with h1 h2 h3 h4 h5 h6 h7 h8
  iterate 7 decide
  · have hhigh := isPrintable_hexDigit (n := ch.toNat / 16) (by omega)
    have hlow := isPrintable_hexDigit (n := ch.toNat % 16) (by omega)
    simp only [List.all_cons, hhigh, hlow]
    decide
  · rw [List.all_cons, isPrintable_of_literal hch h8]
    rfl

theorem isPrintable_quoted (hs : ∀ ch ∈ s, Literal ch) : (quoted s).all isPrintable = true := by
  have hinner : (s.flatMap escapeChar).all isPrintable = true := by
    rw [List.all_flatMap, List.all_eq_true]
    exact fun ch hch => isPrintable_escapeChar (hs ch hch)
  rw [quoted, List.cons_append, List.all_cons, List.all_append, hinner]
  decide

end BuilderAudit.Yaml
