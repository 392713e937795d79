/-!
# Places in a YAML text

A `Cursor` is the text that is left with the place where it begins. Columns decide on the structure of a document, and
line ends are of five kinds.

* `Cursor.skip`, `Cursor.drop`, `Cursor.skipBreak` : the cursor after a character, several, a line end;
* `Cursor.spanWhile` : the characters that have a property, and the cursor after them;
* `Cursor.atDocumentSign` : does `---` or `...` stand here?
-/

namespace BuilderAudit.Yaml

def isBreak (c : Char) : Bool := c = '\r' || c = '\n' || c = '\x85' || c = '\u2028' || c = '\u2029'

def isGap (c : Char) : Bool := c = ' ' || c = '\t'

/-- Characters of anchors, handles and directive names. -/
def isNameChar (c : Char) : Bool := c.isAlphanum || c = '_' || c = '-'

def isPrintable (c : Char) : Bool :=
  let n := c.toNat
  n = 0x09 || n = 0x0A || n = 0x0D || (0x20 ≤ n && n ≤ 0x7E) || n = 0x85 || (0xA0 ≤ n && n ≤ 0xFFFD) || 0x10000 ≤ n

/-- The text that is left, with the place where it begins. -/
structure Cursor where
  rest : List Char
  /-- The number of characters before it. -/
  index : Nat
  line : Nat
  column : Nat

namespace Cursor

def start (text : List Char) : Cursor := ⟨text, 0, 0, 0⟩

def head? (c : Cursor) : Option Char := c.rest.head?

def ahead? (c : Cursor) (n : Nat) : Option Char := (c.rest.drop n).head?

/-- Is there a blank, a line end or the end of the text `n` places on? -/
def endsWordAt (c : Cursor) (n : Nat) : Bool :=
  match c.ahead? n with
  | none => true
  | some ch => isGap ch || isBreak ch

def endsLine (c : Cursor) : Bool := c.head?.all isBreak

/-- The cursor `n` characters on. That many characters have to be left on the line. -/
def drop (c : Cursor) (n : Nat) : Cursor :=
  { c with rest := c.rest.drop n, index := c.index + n, column := c.column + n }

def skip (c : Cursor) : Cursor := c.drop 1

/-- The cursor after a line end, with the text that the line end stands for; nothing happens elsewhere. -/
def skipBreak (c : Cursor) : List Char × Cursor :=
  match c.rest with
  | '\r' :: '\n' :: rest => (['\n'], ⟨rest, c.index + 2, c.line + 1, 0⟩)
  | b :: rest =>
    if isBreak b then
      ([if b = '\u2028' || b = '\u2029' then b else '\n'], ⟨rest, c.index + 1, c.line + 1, 0⟩)
    else ([], c)
  | [] => ([], c)

/-- The characters that have a property, none of them a line end, and the cursor after them. -/
def spanWhile (p : Char → Bool) (c : Cursor) : List Char × Cursor :=
  let taken := c.rest.takeWhile p
  (taken, c.drop taken.length)

def skipWhile (p : Char → Bool) (c : Cursor) : Cursor := (c.spanWhile p).2

def skipLine (c : Cursor) : Cursor := c.skipWhile (!isBreak ·)

/-- The cursor after a comment, if one begins here. -/
def skipComment (c : Cursor) : Cursor := if c.head? = some '#' then c.skipLine else c

/-- Does a document sign `---` or `...` stand here, at the start of a line? -/
def atDocumentSign (c : Cursor) : Bool :=
  c.column = 0 && ("---".toList.isPrefixOf c.rest || "...".toList.isPrefixOf c.rest) && c.endsWordAt 3

/-! ## How much text is left -/

theorem length_skip_lt {c : Cursor} (h : c.rest ≠ []) : c.skip.rest.length < c.rest.length := by
  cases hr : c.rest with
  | nil => exact absurd hr h
  | cons a as => simp [skip, drop, hr]

theorem length_skipBreak_lt {c : Cursor} (h : c.head?.any isBreak = true) :
    c.skipBreak.2.rest.length < c.rest.length := by
  unfold skipBreak
  unfold head? at h
  split
  · rename_i h
    simp only [h, List.length_cons]
    omega
  · split <;> simp_all
  · simp_all

end Cursor

end BuilderAudit.Yaml
