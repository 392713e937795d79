import BuilderAudit.Json.Basic
import BuilderAudit.Json.Lexer
import BuilderAudit.Proofs.Text.Utf8
import Mathlib

/-!
# The words of JSON there and back

What is written as a string or as a number is read as the same string or number, and what follows is left over. A string
may be written in many ways: each character stands for itself or is one of several escapes.

* `skipSpace_append`, `skipSpace_of_head` : blanks between words;
* `next?_close`, `next?_comma` : what follows an item;
* `CharText`, `StringText` : all ways to write a character or several inside quotes;
* `string?_stringText`, `string?_quoted` : strings;
* `natural?`, `natural?_decimal` : natural numbers.
-/

namespace BuilderAudit.Json

variable {rest cs : List Char}

/-! ## Blanks -/

def Blank (cs : List Char) : Prop := ∀ c ∈ cs, isSpace c = true

theorem Blank.nil : Blank [] := List.forall_mem_nil _

theorem skipSpace_append {blanks : List Char} (h : Blank blanks) (cs : List Char) :
    skipSpace (blanks ++ cs) = skipSpace cs := by
  unfold skipSpace
  rw [List.dropWhile_append, if_pos]
  simpa [Blank] using h

theorem skipSpace_of_head {c : Char} (h : isSpace c = false) (cs : List Char) : skipSpace (c :: cs) = c :: cs := by
  unfold skipSpace
  rw [List.dropWhile_cons, h]
  rfl

theorem blank_newline (depth : Nat) : Blank (newline depth) := by
  intro c hc
  rw [newline, List.mem_cons, List.mem_replicate] at hc
  rcases hc with rfl | ⟨-, rfl⟩
  · rfl
  · rfl

theorem skipSpace_newline (depth : Nat) (cs : List Char) : skipSpace (newline depth ++ cs) = skipSpace cs :=
  skipSpace_append (blank_newline depth) cs

/-! ## Items -/

/-- What is written starts with a character that is neither a blank nor the closing sign. -/
def StartsElement (close : Char) (text : List Char) : Prop :=
  ∃ c more, text = c :: more ∧ isSpace c = false ∧ c ≠ close

section Items

variable {close : Char} {after text : List Char}

theorem next?_close (hafter : Blank after) (hclose : isSpace close = false) (rest : List Char) :
    next? close (after ++ close :: rest) = some (true, rest) := by
  rw [next?, skipSpace_append hafter, skipSpace_of_head hclose]
  exact if_pos rfl

theorem next?_comma (hafter : Blank after) (hclose : close ≠ ',') (h : StartsElement close (skipSpace text)) :
    next? close (after ++ ',' :: text) = some (false, skipSpace text) := by
  obtain ⟨c, more, htext, -, hne⟩ := h
  rw [next?, skipSpace_append hafter, skipSpace_of_head (by decide)]
  simp only [htext, if_neg hclose.symm, if_pos, if_neg hne]

end Items

/-! ## Strings -/

/-- A hexadecimal digit, in lower or in upper case. -/
def IsHexDigit (n : Nat) (c : Char) : Prop := n < 16 ∧ (c = hexDigit n ∨ c = (hexDigit n).toUpper)

inductive IsCodeUnit : Nat → List Char → Prop
  | mk {a b c d : Nat} {ca cb cc cd : Char} (ha : IsHexDigit a ca) (hb : IsHexDigit b cb) (hc : IsHexDigit c cc)
      (hd : IsHexDigit d cd) : IsCodeUnit (((a * 16 + b) * 16 + c) * 16 + d) [ca, cb, cc, cd]

/-- The characters that stand behind a backslash, with what they stand for there. -/
def shortEscapes : List (Char × Char) :=
  [('"', '"'), ('\\', '\\'), ('/', '/'), ('b', '\x08'), ('f', '\x0C'), ('n', '\n'), ('r', '\r'), ('t', '\t')]

/-- The ways to write a character inside quotes. -/
inductive CharText : Char → List Char → Prop
  | plain {c : Char} (hquote : c ≠ '"') (hslash : c ≠ '\\') (hcontrol : 0x20 ≤ c.toNat) : CharText c [c]
  | short {c e : Char} (h : (e, c) ∈ shortEscapes) : CharText c ['\\', e]
  | unit {c : Char} {ds : List Char} (h : IsCodeUnit c.toNat ds) : CharText c ('\\' :: 'u' :: ds)
  /-- A character that needs more than four digits is written in two halves. -/
  | pair {c : Char} {n : Nat} {ds es : List Char} (hc : c.toNat = 0x10000 + n)
      (hhigh : IsCodeUnit (0xD800 + n / 0x400) ds)
      (hlow : IsCodeUnit (0xDC00 + n % 0x400) es) : CharText c ('\\' :: 'u' :: ds ++ '\\' :: 'u' :: es)

inductive StringText : List Char → List Char → Prop
  | nil : StringText [] []
  | cons {c : Char} {s t more : List Char} (h : CharText c t) (hmore : StringText s more) :
      StringText (c :: s) (t ++ more)

variable {n : Nat} {c : Char} {s t ds : List Char}

theorem hexValue?_of_isHexDigit (h : IsHexDigit n c) : hexValue? c = some n := by
  have hall : ∀ n < 16, hexValue? (hexDigit n) = some n ∧ hexValue? (hexDigit n).toUpper = some n := by decide
  obtain ⟨hn, rfl | rfl⟩ := h
  · exact (hall n hn).1
  · exact (hall n hn).2

theorem codeUnit?_of_isCodeUnit (h : IsCodeUnit n ds) (cs : List Char) : codeUnit? (ds ++ cs) = some (n, cs) := by
  cases h with
  | mk ha hb hc hd =>
      simp only [List.cons_append, List.nil_append, codeUnit?, hexValue?_of_isHexDigit ha, hexValue?_of_isHexDigit hb,
        hexValue?_of_isHexDigit hc, hexValue?_of_isHexDigit hd, Option.bind_eq_bind, Option.bind_some, Option.pure_def]

theorem unicodeEscape?_unit (h : IsCodeUnit c.toNat ds) (cs : List Char) :
    unicodeEscape? (ds ++ cs) = some (c, cs) := by
  have hlow : isLowSurrogate c.toNat = false := by
    have := Utf8.toNat_bounds c
    simp only [isLowSurrogate, Bool.and_eq_false_iff, decide_eq_false_iff_not]
    omega
  have hhigh : isHighSurrogate c.toNat = false := by
    have := Utf8.toNat_bounds c
    simp only [isHighSurrogate, Bool.and_eq_false_iff, decide_eq_false_iff_not]
    omega
  simp [unicodeEscape?, codeUnit?_of_isCodeUnit h, hlow, hhigh]

theorem unicodeEscape?_pair {es : List Char} (hc : c.toNat = 0x10000 + n) (hhigh : IsCodeUnit (0xD800 + n / 0x400) ds)
    (hlow : IsCodeUnit (0xDC00 + n % 0x400) es) (cs : List Char) :
    unicodeEscape? (ds ++ '\\' :: 'u' :: (es ++ cs)) = some (c, cs) := by
  have hn : n < 0x100000 := by
    have := Utf8.toNat_bounds c
    omega
  have hfirst : isLowSurrogate (0xD800 + n / 0x400) = false ∧ isHighSurrogate (0xD800 + n / 0x400) = true := by
    simp only [isLowSurrogate, isHighSurrogate, Bool.and_eq_false_iff, Bool.and_eq_true, decide_eq_false_iff_not,
      decide_eq_true_eq]
    omega
  have hsecond : isLowSurrogate (0xDC00 + n % 0x400) = true := by
    simp only [isLowSurrogate, Bool.and_eq_true, decide_eq_true_eq]
    omega
  have hvalue : 0x10000 + (0xD800 + n / 0x400 - 0xD800) * 0x400 + (0xDC00 + n % 0x400 - 0xDC00) = c.toNat := by omega
  simp only [unicodeEscape?, codeUnit?_of_isCodeUnit hhigh, codeUnit?_of_isCodeUnit hlow, hfirst.1, hfirst.2, hsecond,
    hvalue, Bool.false_eq_true, if_false, if_true, Char.ofNat_toNat]

theorem stringFrom?_quote (done cs : List Char) : stringFrom? done ('"' :: cs) = some (done.reverse, cs) := by
  rw [stringFrom?, if_pos rfl]

theorem stringFrom?_escape {done cs rest : List Char} {c : Char} (h : escaped? cs = some (c, rest)) :
    stringFrom? done ('\\' :: cs) = stringFrom? (c :: done) rest := by
  rw [stringFrom?, if_neg (by decide), if_pos rfl]
  split
  · next hnone =>
    rw [h] at hnone
    cases hnone
  · next heq =>
    rw [h] at heq
    cases heq
    rfl

theorem stringFrom?_char {c : Char} (hquote : c ≠ '"') (hslash : c ≠ '\\') (hcontrol : ¬ c.toNat < 0x20)
    (done cs : List Char) : stringFrom? done (c :: cs) = stringFrom? (c :: done) cs := by
  rw [stringFrom?, if_neg hquote, if_neg hslash, if_neg hcontrol]

/-- A character is read, however it is written. -/
theorem stringFrom?_charText (h : CharText c t) (done cs : List Char) :
    stringFrom? done (t ++ cs) = stringFrom? (c :: done) cs := by
  cases h with
  | plain hquote hslash hcontrol => exact stringFrom?_char hquote hslash (Nat.not_lt.mpr hcontrol) done cs
  | short h =>
      simp only [shortEscapes, List.mem_cons, Prod.mk.injEq, List.not_mem_nil, or_false] at h
      rcases h with ⟨rfl, rfl⟩ | ⟨rfl, rfl⟩ | ⟨rfl, rfl⟩ | ⟨rfl, rfl⟩ | ⟨rfl, rfl⟩ | ⟨rfl, rfl⟩ | ⟨rfl, rfl⟩ |
        ⟨rfl, rfl⟩ <;>
        exact stringFrom?_escape rfl
  | unit h => exact stringFrom?_escape (unicodeEscape?_unit h cs)
  | pair hc hhigh hlow =>
      rw [List.append_assoc, List.cons_append, List.cons_append]
      exact stringFrom?_escape (unicodeEscape?_pair hc hhigh hlow cs)

theorem stringFrom?_stringText (h : StringText s t) (done rest : List Char) :
    stringFrom? done (t ++ '"' :: rest) = some (done.reverse ++ s, rest) := by
  induction h generalizing done with
  | nil => rw [List.nil_append, stringFrom?_quote, List.append_nil]
  | cons h _ ih =>
      rw [List.append_assoc, stringFrom?_charText h, ih, List.reverse_cons, List.append_assoc]
      rfl

/-- A string is read, however it is written. -/
theorem string?_stringText (h : StringText s t) (rest : List Char) : string? (t ++ '"' :: rest) = some (s, rest) :=
  stringFrom?_stringText h [] rest

theorem isHexDigit_hexDigit (h : n < 16) : IsHexDigit n (hexDigit n) := ⟨h, Or.inl rfl⟩

theorem charText_escapeChar (c : Char) : CharText c (escapeChar c) := by
  unfold escapeChar
  split_ifs with h1 h2 h3 h4 h5 h6 h7 h8
  · exact .short (by simp [shortEscapes, h1])
  · exact .short (by simp [shortEscapes, h2])
  · exact .short (by simp [shortEscapes, h3])
  · exact .short (by simp [shortEscapes, h4])
  · exact .short (by simp [shortEscapes, h5])
  · exact .short (by simp [shortEscapes, h6])
  · exact .short (by simp [shortEscapes, h7])
  · have hunit := IsCodeUnit.mk (isHexDigit_hexDigit (n := 0) (by decide)) (isHexDigit_hexDigit (n := 0) (by decide))
      (isHexDigit_hexDigit (n := c.toNat / 16) (by omega)) (isHexDigit_hexDigit (n := c.toNat % 16) (by omega))
    rw [show ((0 * 16 + 0) * 16 + c.toNat / 16) * 16 + c.toNat % 16 = c.toNat by omega] at hunit
    exact .unit hunit
  · exact .plain h1 h2 (Nat.not_lt.mp h8)

theorem stringText_flatMap (s : List Char) : StringText s (s.flatMap escapeChar) := by
  induction s with
  | nil => exact .nil
  | cons c s ih => exact .cons (charText_escapeChar c) ih

/-- A string is read as it is written. -/
theorem string?_quoted (s rest : List Char) : string? (s.flatMap escapeChar ++ '"' :: rest) = some (s, rest) :=
  string?_stringText (stringText_flatMap s) rest

theorem quoted_append (s rest : List Char) : quoted s ++ rest = '"' :: (s.flatMap escapeChar ++ '"' :: rest) := by
  simp [quoted]

/-! ## Numbers -/

/-- Can the character go on with a number that has begun? -/
def extendsNumber (c : Char) : Bool := c.isDigit || c = '.' || c = 'e' || c = 'E'

/-- Nothing at the front of the text can go on with a number. -/
def EndsNumber (cs : List Char) : Prop := ∀ c ∈ cs.head?, extendsNumber c = false

/-- Reads a natural number: digits of which the first is no zero unless it is alone, and neither places nor an
exponent. -/
def natural? (cs : List Char) : Option (Nat × List Char) :=
  match wholeDigits? cs with
  | none => none
  | some (whole, rest) => if rest.head?.any extendsNumber then none else some (valueOf whole, rest)

theorem valueOf_eq (digits : List Char) : valueOf digits = Nat.ofDigitChars 10 digits 0 := by
  unfold valueOf
  rw [Nat.ofDigitChars_eq_foldl]
  congr 1
  funext n c
  rw [Nat.mul_comm]
  rfl

/-- Only zero is written with a zero in front. -/
theorem head?_toDigits {n : Nat} (h : (Nat.toDigits 10 n).head? = some '0') : n = 0 := by
  induction n using Nat.strongRecOn with
  | ind n ih =>
      rcases Nat.lt_or_ge n 10 with hlt | hge
      · rw [Nat.toDigits_of_lt_base hlt, List.head?_cons, Option.some.injEq] at h
        have hall : ∀ n < 10, n.digitChar = '0' → n = 0 := by decide
        exact hall n hlt h
      · rw [Nat.toDigits_of_base_le (by decide) hge, List.head?_append_of_ne_nil _ Nat.toDigits_ne_nil] at h
        have hzero := ih (n / 10) (by omega) h
        omega

theorem digits_append {ds : List Char} (hds : ∀ c ∈ ds, c.isDigit = true) (hrest : EndsNumber rest) :
    digits (ds ++ rest) = (ds, rest) := by
  have hstop : rest.takeWhile Char.isDigit = [] ∧ rest.dropWhile Char.isDigit = rest := by
    cases rest with
    | nil => exact ⟨rfl, rfl⟩
    | cons c rest =>
        have hc : extendsNumber c = false := hrest c rfl
        have hdigit : c.isDigit = false := by
          simp only [extendsNumber, Bool.or_eq_false_iff] at hc
          exact hc.1.1.1
        rw [List.takeWhile_cons, List.dropWhile_cons, hdigit]
        exact ⟨rfl, rfl⟩
  unfold digits
  rw [List.takeWhile_append_of_pos hds, List.dropWhile_append_of_pos hds, hstop.1, hstop.2, List.append_nil]

/-- A number is read as it is written. -/
theorem natural?_decimal (n : Nat) (hrest : EndsNumber rest) : natural? (decimal n ++ rest) = some (n, rest) := by
  have hdigits : ∀ c ∈ decimal n, c.isDigit = true := fun c hc =>
    Nat.isDigit_of_mem_toDigits (by decide) (by decide) hc
  have hwhole : wholeDigits? (decimal n ++ rest) = some (decimal n, rest) := by
    unfold wholeDigits?
    rw [digits_append hdigits hrest]
    split
    · next h =>
      rw [Prod.mk.injEq] at h
      exact absurd h.1 Nat.toDigits_ne_nil
    · next h =>
      rw [Prod.mk.injEq] at h
      have hzero : n = 0 := head?_toDigits (by rw [show Nat.toDigits 10 n = decimal n from rfl, h.1]; rfl)
      rw [hzero] at h
      exact absurd h.1 (by simp [decimal])
    · rfl
  have hend : rest.head?.any extendsNumber = false := by
    cases hhead : rest.head? with
    | none => rfl
    | some c => exact hrest c hhead
  simp only [natural?, hwhole, hend, Bool.false_eq_true, if_false]
  rw [valueOf_eq, decimal, Nat.ofDigitChars_ten_toDigits]

end BuilderAudit.Json
