import BuilderAudit.Pattern.Ast
import BuilderAudit.Text.Basic

/-!
# Blanks and escapes in patterns

Under the flag `x` white space is skipped, and so is a comment from `#` to the end of its line. `escape` reads what
follows a backslash: a character, an assertion or a class. No reader returns more text than it was given
(`escape_shrinks`).

* `skipBlanks` : the pattern text after blanks and comments, never longer than before (`length_skipBlanks_le`);
* `peekPastBlanks` : what a hyphen in a class looks at to tell whether it makes a range;
* `escape` : an escape.
-/

namespace BuilderAudit.Pattern

/-! ## Blanks and comments -/

/-- The text after blanks and comments; `inComment` tells that a comment has begun. -/
def skipBlanksFrom (inComment : Bool) : List Char → List Char
  | [] => []
  | c :: cs =>
    if inComment then skipBlanksFrom (c != '\n') cs
    else if isBlank c then skipBlanksFrom false cs
    else if c == '#' then skipBlanksFrom true cs
    else c :: cs

/-- The text after blanks and comments if these are skipped at all. -/
def skipBlanks (spaced : Bool) (cs : List Char) : List Char :=
  if spaced then skipBlanksFrom false cs else cs

theorem length_skipBlanksFrom_le (inComment : Bool) (cs : List Char) :
    (skipBlanksFrom inComment cs).length ≤ cs.length := by
  fun_induction skipBlanksFrom inComment cs <;> simp_all <;> omega

@[simp] theorem length_skipBlanks_le (spaced : Bool) (cs : List Char) :
    (skipBlanks spaced cs).length ≤ cs.length := by
  unfold skipBlanks
  split
  · exact length_skipBlanksFrom_le false cs
  · exact Nat.le_refl _

/-- The first character that is neither blank nor the `#` of a comment. -/
def firstPastBlanks (inComment : Bool) : List Char → Option Char
  | [] => none
  | c :: cs =>
    if isBlank c then firstPastBlanks inComment cs
    else if !inComment && c == '#' then firstPastBlanks true cs
    else some c

/-- The character that follows a hyphen in a class. Blanks are passed over if they are skipped at all, but the words of
a comment are not; when nothing else follows it is the very next character. -/
def peekPastBlanks (spaced : Bool) (cs : List Char) : Option Char :=
  if spaced then firstPastBlanks false cs <|> cs.head? else cs.head?

/-! ## Characters by number -/

/-- Reads exactly `count` hexadecimal digits, blanks after each of them skipped. -/
def hexDigits (spaced : Bool) : (count value : Nat) → Reader Error Nat
  | 0, value, cs => .ok (value, cs)
  | _ + 1, _, [] => .error .badEscape
  | count + 1, value, c :: cs =>
    match hexValue? c with
    | none => .error .badEscape
    | some d => hexDigits spaced count (value * 16 + d) (skipBlanks spaced cs)

theorem hexDigits_shrinks (spaced : Bool) (count value : Nat) : (hexDigits spaced count value).Shrinks := by
  intro cs n rest h
  fun_induction hexDigits spaced count value cs with
  | case1 => simp_all
  | case2 => simp at h
  | case3 => simp at h
  | case4 count value c cs d hd ih => have := ih h; grind [length_skipBlanks_le]

/-- Reads hexadecimal digits up to a closing brace; `value` is what the digits before came to, if there were any. -/
def hexBraced (spaced : Bool) (value : Option Nat) : Reader Error Nat
  | [] => .error .badEscape
  | c :: cs =>
    if c == '}' then
      match value with
      | none => .error .badEscape
      | some v => .ok (v, skipBlanks spaced cs)
    else
      match hexValue? c with
      | none => .error .badEscape
      | some d => hexBraced spaced (some (value.getD 0 * 16 + d)) (skipBlanks spaced cs)
termination_by cs => cs.length
decreasing_by
  have := length_skipBlanks_le spaced cs
  simp only [List.length_cons]
  omega

theorem hexBraced_shrinks (spaced : Bool) (value : Option Nat) : (hexBraced spaced value).Shrinks := by
  intro cs n rest h
  fun_induction hexBraced spaced value cs <;> grind [length_skipBlanks_le]

def charOfNumber? (n : Nat) : Option Char := if n.isValidChar then some (Char.ofNat n) else none

def literalOfNumber (isByte : Bool) (n : Nat) : Except Error Ast :=
  match charOfNumber? n with
  | none => .error .badEscape
  | some c => .ok (.literal c isByte)

/-- Reads a character by its number: `count` digits, or any number of digits in braces. -/
def numbered (spaced : Bool) (count : Nat) : Reader Error Ast := fun cs =>
  match skipBlanks spaced cs with
  | '{' :: inner => do
    let (n, rest) ← hexBraced spaced none (skipBlanks spaced inner)
    return (← literalOfNumber false n, rest)
  | cs => do
    let (n, rest) ← hexDigits spaced count 0 cs
    return (← literalOfNumber (count == 2) n, rest)

theorem numbered_shrinks (spaced : Bool) (count : Nat) : (numbered spaced count).Shrinks := by
  intro cs a rest h
  have hs := length_skipBlanks_le spaced cs
  unfold numbered at h
  split at h
  · rename_i inner heq
    obtain ⟨⟨n, r⟩, hb, hr⟩ := bind_eq_ok_iff.1 h
    obtain ⟨l, hl, hr⟩ := bind_eq_ok_iff.1 hr
    have := hexBraced_shrinks _ _ hb
    grind [length_skipBlanks_le, pure_eq_ok_iff]
  · obtain ⟨⟨n, r⟩, hb, hr⟩ := bind_eq_ok_iff.1 h
    obtain ⟨l, hl, hr⟩ := bind_eq_ok_iff.1 hr
    have := hexDigits_shrinks _ _ _ hb
    grind [length_skipBlanks_le, pure_eq_ok_iff]

/-! ## Properties -/

/-- Splits a list before the first place where `sep` stands, and drops it there. -/
def splitAt? (sep : List Char) : List Char → Option (List Char × List Char)
  | [] => none
  | c :: cs =>
    if sep.isPrefixOf (c :: cs) then some ([], (c :: cs).drop sep.length)
    else (splitAt? sep cs).map fun (before, after) => (c :: before, after)

def queryOf (text : List Char) : Property.Query :=
  match splitAt? ['!', '='] text <|> splitAt? [':'] text <|> splitAt? ['='] text with
  | some (property, value) => .valued (String.ofList property) (String.ofList value)
  | none => .named (String.ofList text)

def bracedText (spaced : Bool) : Reader Error (List Char)
  | [] => .error .badEscape
  | c :: cs =>
    if c == '}' then .ok ([], cs)
    else do
      let (text, rest) ← bracedText spaced (skipBlanks spaced cs)
      return (c :: text, rest)
termination_by cs => cs.length
decreasing_by
  have := length_skipBlanks_le spaced cs
  simp only [List.length_cons]
  omega

theorem bracedText_shrinks (spaced : Bool) : (bracedText spaced).Shrinks := by
  intro cs text rest h
  fun_induction bracedText spaced cs generalizing text rest with
  | case1 => simp at h
  | case2 => simp at h; simp [h.2]
  | case3 c cs _ ih =>
    obtain ⟨⟨t, r⟩, hb, hr⟩ := bind_eq_ok_iff.1 h
    have := ih hb
    grind [length_skipBlanks_le, pure_eq_ok_iff]

/-- Reads the name of a property: one letter, or a text in braces. -/
def propertyName (spaced negated : Bool) : Reader Error Ast := fun cs =>
  match skipBlanks spaced cs with
  | [] => .error .badEscape
  | '{' :: inner => do
    let (text, rest) ← bracedText spaced (skipBlanks spaced inner)
    return (.property (queryOf text) negated, rest)
  | c :: rest =>
    if c == '\\' then .error .badEscape
    else .ok (.property (.named (String.singleton c)) negated, skipBlanks spaced rest)

theorem propertyName_shrinks (spaced negated : Bool) : (propertyName spaced negated).Shrinks := by
  intro cs a rest h
  have hs := length_skipBlanks_le spaced cs
  unfold propertyName at h
  split at h
  · simp at h
  · obtain ⟨⟨n, r⟩, hb, hr⟩ := bind_eq_ok_iff.1 h
    have := bracedText_shrinks _ hb
    grind [length_skipBlanks_le, pure_eq_ok_iff]
  · grind [length_skipBlanks_le]

/-! ## Words -/

/-- A letter of the name of a kind of word boundary. -/
def isBoundaryNameChar (c : Char) : Bool := c.isAlpha || c == '-'

/-- Reads the letters of such a name, blanks after each of them skipped. -/
def boundaryName (spaced : Bool) : List Char → List Char × List Char
  | [] => ([], [])
  | c :: cs =>
    if isBoundaryNameChar c then
      let (name, rest) := boundaryName spaced (skipBlanks spaced cs)
      (c :: name, rest)
    else ([], c :: cs)
termination_by cs => cs.length
decreasing_by
  have := length_skipBlanks_le spaced cs
  simp only [List.length_cons]
  omega

theorem length_boundaryName_le (spaced : Bool) (cs : List Char) : (boundaryName spaced cs).2.length ≤ cs.length := by
  fun_induction boundaryName spaced cs <;> grind [length_skipBlanks_le]

def boundaryOfName? (name : List Char) : Option Assertion :=
  if name == "start".toList then some .wordStart
  else if name == "end".toList then some .wordEnd
  else if name == "start-half".toList then some .wordStartHalf
  else if name == "end-half".toList then some .wordEndHalf
  else none

/-- Reads what follows `\b`: a kind in braces, or nothing. Braces that cannot hold a kind are left to be read as a
repetition. -/
def wordBoundary (spaced : Bool) : Reader Error Ast := fun cs =>
  match cs with
  | '{' :: inner =>
    match skipBlanks spaced inner with
    | [] => .error .badEscape
    | c :: rest =>
      if isBoundaryNameChar c then
        match boundaryName spaced (c :: rest) with
        | (name, '}' :: rest) =>
          match boundaryOfName? name with
          | some kind => .ok (.assertion kind, rest)
          | none => .error .badEscape
        | _ => .error .badEscape
      else .ok (.assertion .wordBoundary, cs)
  | _ => .ok (.assertion .wordBoundary, cs)

theorem wordBoundary_shrinks (spaced : Bool) : (wordBoundary spaced).Shrinks := by
  intro cs a rest h
  unfold wordBoundary at h
  grind [length_skipBlanks_le, length_boundaryName_le]

/-! ## All escapes -/

/-- May the character be escaped to stand for itself? All of ASCII may, but for letters, digits and angle brackets. -/
def isEscapable (c : Char) : Bool := c.toNat < 128 && !c.isAlphanum && c != '<' && c != '>'

def escape (spaced : Bool) : Reader Error Ast
  | [] => .error .badEscape
  | c :: cs =>
    match c with
    | 'x' => numbered spaced 2 cs
    | 'u' => numbered spaced 4 cs
    | 'U' => numbered spaced 8 cs
    | 'p' => propertyName spaced false cs
    | 'P' => propertyName spaced true cs
    | 'd' => .ok (.escape .digit false, cs)
    | 'D' => .ok (.escape .digit true, cs)
    | 's' => .ok (.escape .space false, cs)
    | 'S' => .ok (.escape .space true, cs)
    | 'w' => .ok (.escape .word false, cs)
    | 'W' => .ok (.escape .word true, cs)
    | 'a' => .ok (.literal '\x07' false, cs)
    | 'f' => .ok (.literal '\x0C' false, cs)
    | 't' => .ok (.literal '\t' false, cs)
    | 'n' => .ok (.literal '\n' false, cs)
    | 'r' => .ok (.literal '\r' false, cs)
    | 'v' => .ok (.literal '\x0B' false, cs)
    | 'A' => .ok (.assertion .textStart, cs)
    | 'z' => .ok (.assertion .textEnd, cs)
    | 'b' => wordBoundary spaced cs
    | 'B' => .ok (.assertion .notWordBoundary, cs)
    | '<' => .ok (.assertion .wordStart, cs)
    | '>' => .ok (.assertion .wordEnd, cs)
    | c => if isEscapable c then .ok (.literal c false, cs) else .error .badEscape

theorem escape_shrinks (spaced : Bool) : (escape spaced).Shrinks := by
  intro cs a rest h
  unfold escape at h
  have hn := @numbered_shrinks spaced
  have hp := @propertyName_shrinks spaced
  have hw := @wordBoundary_shrinks spaced
  unfold Reader.Shrinks at hn hp hw
  split at h
  · simp at h
  · rename_i c cs
    split at h <;> grind

end BuilderAudit.Pattern
