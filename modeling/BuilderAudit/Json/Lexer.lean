import BuilderAudit.Text.Basic

/-!
# The words of JSON

Readers of strings, numbers and constants. A reader answers `none` where the text is not JSON.

* `Json.string?` : a string behind its opening quote;
* `Json.number?` : passes a number, which has to be in the range of double precision;
* `Json.scalar?` : passes a scalar of any type.
-/

namespace BuilderAudit.Json

def isSpace (c : Char) : Bool := c = ' ' || c = '\n' || c = '\t' || c = '\r'

def skipSpace (cs : List Char) : List Char := cs.dropWhile isSpace

theorem length_skipSpace_le (cs : List Char) : (skipSpace cs).length ≤ cs.length :=
  (List.dropWhile_sublist isSpace).length_le

/-! ## Strings -/

/-- Reads four hexadecimal digits. -/
def codeUnit? : List Char → Option (Nat × List Char)
  | a :: b :: c :: d :: rest => do
    let n := ((← hexValue? a) * 16 + (← hexValue? b)) * 16 + (← hexValue? c)
    return (n * 16 + (← hexValue? d), rest)
  | _ => none

theorem length_codeUnit? {cs rest : List Char} {n : Nat} (h : codeUnit? cs = some (n, rest)) :
    rest.length < cs.length := by
  unfold codeUnit? at h
  split at h
  · simp only [Option.bind_eq_bind, Option.bind_eq_some_iff, Option.pure_def, Option.some.injEq, Prod.mk.injEq] at h
    obtain ⟨_, _, _, _, _, _, _, _, _, rfl⟩ := h
    simp only [List.length_cons]
    omega
  · simp at h

def isHighSurrogate (n : Nat) : Bool := 0xD800 ≤ n && n ≤ 0xDBFF

def isLowSurrogate (n : Nat) : Bool := 0xDC00 ≤ n && n ≤ 0xDFFF

/-- Reads what follows `\u`: the number of a character, or the two halves of a surrogate pair. -/
def unicodeEscape? (cs : List Char) : Option (Char × List Char) :=
  match codeUnit? cs with
  | none => none
  | some (high, rest) =>
    if isLowSurrogate high then none
    else if isHighSurrogate high then
      match rest with
      | '\\' :: 'u' :: rest =>
        match codeUnit? rest with
        | some (low, rest) =>
          if isLowSurrogate low then some (Char.ofNat (0x10000 + (high - 0xD800) * 0x400 + (low - 0xDC00)), rest)
          else none
        | none => none
      | _ => none
    else some (Char.ofNat high, rest)

def escaped? : List Char → Option (Char × List Char)
  | [] => none
  | c :: cs =>
    if c = '"' || c = '\\' || c = '/' then some (c, cs)
    else if c = 'b' then some ('\x08', cs)
    else if c = 'f' then some ('\x0C', cs)
    else if c = 'n' then some ('\n', cs)
    else if c = 'r' then some ('\r', cs)
    else if c = 't' then some ('\t', cs)
    else if c = 'u' then unicodeEscape? cs
    else none

theorem length_unicodeEscape? {cs rest : List Char} {c : Char} (h : unicodeEscape? cs = some (c, rest)) :
    rest.length < cs.length := by
  unfold unicodeEscape? at h
  grind [→ length_codeUnit?]

theorem length_escaped? {cs rest : List Char} {c : Char} (h : escaped? cs = some (c, rest)) :
    rest.length < cs.length := by
  unfold escaped? at h
  grind [→ length_unicodeEscape?]

/-- Reads a string up to its closing quote, behind the characters in `done`, which are in reverse. -/
def stringFrom? (done : List Char) (cs : List Char) : Option (List Char × List Char) :=
  match cs with
  | [] => none
  | c :: cs =>
    if c = '"' then some (done.reverse, cs)
    else if c = '\\' then
      match _h : escaped? cs with
      | none => none
      | some (c, rest) => stringFrom? (c :: done) rest
    else if c.toNat < 0x20 then none
    else stringFrom? (c :: done) cs
termination_by cs.length
decreasing_by
  · have := length_escaped? _h
    simp only [List.length_cons]
    omega
  · simp

def string? (cs : List Char) : Option (List Char × List Char) := stringFrom? [] cs

theorem length_stringFrom? {done cs text rest : List Char} (h : stringFrom? done cs = some (text, rest)) :
    rest.length < cs.length := by
  fun_induction stringFrom? done cs <;> grind [→ length_escaped?]

theorem length_string? {cs text rest : List Char} (h : string? cs = some (text, rest)) :
    rest.length < cs.length := length_stringFrom? h

/-! ## Numbers -/

def digits (cs : List Char) : List Char × List Char := (cs.takeWhile Char.isDigit, cs.dropWhile Char.isDigit)

def valueOf (digits : List Char) : Nat := digits.foldl (fun n c => n * 10 + (c.toNat - 0x30)) 0

/-- Reads the digits after a point, if there is a point. -/
def fraction? : List Char → Option (List Char × List Char)
  | '.' :: cs => if (digits cs).1.isEmpty then none else some (digits cs)
  | cs => some ([], cs)

/-- Reads the digits of an exponent without its sign. -/
def exponentDigits? (negative : Bool) (cs : List Char) : Option (Int × List Char) :=
  if (digits cs).1.isEmpty then none
  else
    let n : Int := valueOf (digits cs).1
    some (if negative then -n else n, (digits cs).2)

def exponent? : List Char → Option (Int × List Char)
  | c :: cs =>
    if c = 'e' || c = 'E' then
      match cs with
      | '+' :: cs => exponentDigits? false cs
      | '-' :: cs => exponentDigits? true cs
      | cs => exponentDigits? false cs
    else some (0, c :: cs)
  | [] => some (0, [])

/-- Is `n * 10 ^ e` so large that it rounds to infinity in double precision? The least such number lies half-way between
the greatest finite one and the next power of two. -/
def isInfinite (n : Nat) (e : Int) : Bool :=
  if n = 0 then false
  else
    let bound := Nat.pow 2 1024 - Nat.pow 2 970
    match e with
    | .ofNat e => 309 ≤ e || bound ≤ n * Nat.pow 10 e
    | .negSucc e => (Nat.toDigits 10 n).length > e && bound * Nat.pow 10 (e + 1) ≤ n

/-- Passes the whole part of a number: a zero alone, or digits that start with no zero. -/
def wholeDigits? (cs : List Char) : Option (List Char × List Char) :=
  match digits cs with
  | ([], _) => none
  | ('0' :: _ :: _, _) => none
  | found => some found

def unsigned? (cs : List Char) : Option (List Char) := do
  let (whole, rest) ← wholeDigits? cs
  let (places, rest) ← fraction? rest
  let (e, rest) ← exponent? rest
  if isInfinite (valueOf (whole ++ places)) (e - places.length) then none else some rest

def number? : List Char → Option (List Char)
  | '-' :: cs => unsigned? cs
  | cs => unsigned? cs

/-! ## Items -/

/-- Passes what follows an item: the closing sign (`true`), or a comma and blanks in front of another item (`false`). -/
def next? (close : Char) (cs : List Char) : Option (Bool × List Char) :=
  match skipSpace cs with
  | [] => none
  | c :: cs =>
    if c = close then some (true, cs)
    else if c = ',' then
      match skipSpace cs with
      | [] => none
      | d :: rest => if d = close then none else some (false, d :: rest)
    else none

theorem length_next? {close : Char} {cs rest : List Char} {closed : Bool} (h : next? close cs = some (closed, rest)) :
    rest.length < cs.length := by
  have h1 := length_skipSpace_le cs
  unfold next? at h
  grind [length_skipSpace_le]

/-! ## Scalars -/

def word? (word cs : List Char) : Option (List Char) :=
  if word.isPrefixOf cs then some (cs.drop word.length) else none

def scalar? (cs : List Char) : Option (List Char) :=
  match cs with
  | '"' :: cs => (string? cs).map Prod.snd
  | 'n' :: _ => word? "null".toList cs
  | 't' :: _ => word? "true".toList cs
  | 'f' :: _ => word? "false".toList cs
  | cs => number? cs

end BuilderAudit.Json
