import BuilderAudit.Text.Basic
import BuilderAudit.Yaml.Cursor

/-!
# Scalars of YAML

The four ways to write a text: plain, in single or double quotes, and as a block. Lines of plain and quoted scalars are
folded: a single line end between two words is a blank, and of several line ends the first one is dropped.

* `plain?`, `quoted?`, `block?` : the text of a scalar and the cursor after it, or `none` if it is malformed.
-/

namespace BuilderAudit.Yaml

/-! ## The white space between words -/

/-- The white space between two words of a plain or quoted scalar. -/
structure Gap where
  /-- Is there a line end in it? -/
  broken : Bool
  /-- The blanks, if there is no line end. -/
  blanks : List Char
  /-- The first line end. -/
  first : List Char
  /-- The line ends after the first one. -/
  others : List Char

namespace Gap

/-- No white space; `broken` tells that a line end has been escaped. -/
def none (broken : Bool) : Gap := ⟨broken, [], [], []⟩

def text (g : Gap) : List Char :=
  if !g.broken then g.blanks
  else if g.first = ['\n'] then (if g.others.isEmpty then [' '] else g.others)
  else g.first ++ g.others

end Gap

/-- Reads white space. A tab may not stand left of the column `indent` on a line of its own. -/
def gapFrom? (indent : Nat) (g : Gap) (c : Cursor) : Option (Gap × Cursor) :=
  match _h : c.head? with
  | none => some (g, c)
  | some ch =>
    if isGap ch then
      if !g.broken then gapFrom? indent { g with blanks := g.blanks ++ [ch] } c.skip
      else if ch = '\t' && c.column < indent then none
      else gapFrom? indent g c.skip
    else if _hb : isBreak ch then
      if g.broken then gapFrom? indent { g with others := g.others ++ c.skipBreak.1 } c.skipBreak.2
      else gapFrom? indent ⟨true, [], c.skipBreak.1, []⟩ c.skipBreak.2
    else some (g, c)
termination_by c.rest.length
decreasing_by
  all_goals first
    | exact Cursor.length_skip_lt (by intro hr; simp [Cursor.head?, hr] at _h)
    | exact Cursor.length_skipBreak_lt (by simp [_h, _hb])

/-! ## Plain scalars -/

def isFlowSign (c : Char) : Bool := c = ',' || c = '[' || c = ']' || c = '{' || c = '}'

/-- Reads a word of a plain scalar: up to white space, a colon at the end of a word, or, in a flow collection, one of
its signs. There no colon may stand in front of a sign. -/
def plainWord? (inFlow : Bool) (c : Cursor) : Option (List Char × Cursor) :=
  match _h : c.rest with
  | [] => some ([], c)
  | ch :: rest =>
    if isGap ch || isBreak ch then some ([], c)
    else if inFlow && ch = ':' && rest.head?.any (fun next => next = '?' || isFlowSign next) then none
    else if (ch = ':' && c.endsWordAt 1) || (inFlow && isFlowSign ch) then some ([], c)
    else (plainWord? inFlow c.skip).map fun (word, c) => (ch :: word, c)
termination_by c.rest.length
decreasing_by exact Cursor.length_skip_lt (by simp [_h])

/-- Reads on in a plain scalar behind `text` and the white space `gap`. The scalar ends at a document sign, at a
comment, and outside of flow collections at a line that begins left of the column `indent`. Tells whether the scalar
ends behind a line end. -/
def plainFrom? (inFlow : Bool) (indent : Nat) (text : List Char) (gap : Gap) (c : Cursor) :
    Option (List Char × Bool × Cursor) :=
  if c.atDocumentSign || c.head? = some '#' then some (text, gap.broken, c)
  else
    match plainWord? inFlow c with
    | none => none
    | some (word, after) =>
      if word.isEmpty then some (text, gap.broken, after)
      else
        match gapFrom? indent (Gap.none false) after with
        | none => none
        | some (gap', next) =>
          let text := text ++ gap.text ++ word
          if !inFlow && next.column < indent then some (text, gap'.broken, next)
          else if next.rest.length < c.rest.length then plainFrom? inFlow indent text gap' next
          else none
termination_by c.rest.length

def plain? (inFlow : Bool) (indent : Nat) (c : Cursor) : Option (List Char × Bool × Cursor) :=
  plainFrom? inFlow indent [] (Gap.none false) c

/-! ## Quoted scalars -/

/-- Reads a character by exactly `count` hexadecimal digits. -/
def numbered? (count : Nat) (c : Cursor) : Option (Char × Cursor) := do
  let digits := c.rest.take count
  if digits.length < count then none
  else
    let n ← digits.foldlM (fun n d => (hexValue? d).map (n * 16 + ·)) 0
    if n.isValidChar then some (Char.ofNat n, c.drop count) else none

def escapedChar? (c : Char) : Option Char :=
  match c with
  | '0' => some '\x00'
  | 'a' => some '\x07'
  | 'b' => some '\x08'
  | 't' | '\t' => some '\t'
  | 'n' => some '\n'
  | 'v' => some '\x0B'
  | 'f' => some '\x0C'
  | 'r' => some '\r'
  | 'e' => some '\x1B'
  | ' ' => some ' '
  | '"' => some '"'
  | '/' => some '/'
  | '\\' => some '\\'
  | 'N' => some '\x85'
  | '_' => some '\xA0'
  | 'L' => some '\u2028'
  | 'P' => some '\u2029'
  | _ => none

def escape? (c : Cursor) : Option (Char × Cursor) :=
  match c.head? with
  | none => none
  | some 'x' => numbered? 2 c.skip
  | some 'u' => numbered? 4 c.skip
  | some 'U' => numbered? 8 c.skip
  | some ch => (escapedChar? ch).map fun e => (e, c.skip)

/-- What stands at a place in a quoted scalar. -/
inductive QuotedPart
  | char (ch : Char)
  /-- A line end behind a backslash. -/
  | escapedBreak
  /-- White space, the closing quote or the end of the text. -/
  | stop

/-- Reads one part of a quoted scalar. A quote in single quotes is written twice. -/
def quotedPart? (quote : Char) (c : Cursor) : Option (QuotedPart × Cursor) :=
  match c.rest with
  | [] => some (.stop, c)
  | ch :: rest =>
    if isGap ch || isBreak ch then some (.stop, c)
    else if quote = '\'' && ch = '\'' && rest.head? = some '\'' then some (.char ch, c.drop 2)
    else if ch = quote then some (.stop, c)
    else if quote = '"' && ch = '\\' then
      if rest.head?.any isBreak then some (.escapedBreak, c.skip.skipBreak.2)
      else (escape? c.skip).map fun (e, next) => (.char e, next)
    else some (.char ch, c.skip)

/-- Reads a word of a quoted scalar: up to white space, the closing quote or an escaped line end. Tells whether it was
an escaped line end. -/
def quotedWord? (quote : Char) (c : Cursor) : Option (List Char × Bool × Cursor) :=
  match quotedPart? quote c with
  | none => none
  | some (.stop, next) => some ([], false, next)
  | some (.escapedBreak, next) => some ([], true, next)
  | some (.char ch, next) =>
    if next.rest.length < c.rest.length then
      (quotedWord? quote next).map fun (word, broken, c) => (ch :: word, broken, c)
    else none
termination_by c.rest.length

/-- Reads on in a quoted scalar behind `text`. No document sign may stand in it. -/
def quotedFrom? (quote : Char) (text : List Char) (c : Cursor) : Option (List Char × Cursor) :=
  if c.atDocumentSign then none
  else
    match quotedWord? quote c with
    | none => none
    | some (word, broken, after) =>
      if after.head? = some quote then some (text ++ word, after.skip)
      else
        match gapFrom? 0 (Gap.none broken) after with
        | none => none
        | some (gap, next) =>
          if next.rest.length < c.rest.length then quotedFrom? quote (text ++ word ++ gap.text) next else none
termination_by c.rest.length

/-- Reads a scalar from behind its opening quote. -/
def quoted? (quote : Char) (c : Cursor) : Option (List Char × Cursor) := quotedFrom? quote [] c

/-! ## Block scalars -/

/-- What happens to the line ends at the end of a block. -/
inductive Chomping
  | strip | clip | keep
  deriving DecidableEq

def Chomping.ofSign? : Char → Option Chomping
  | '+' => some .keep
  | '-' => some .strip
  | _ => none

def increment? (c : Char) : Option Nat := if '1' ≤ c && c ≤ '9' then some (c.toNat - 0x30) else none

/-- Reads the signs behind the sign of a block: chomping and indentation, in either order. -/
def blockSigns? (c : Cursor) : Option (Chomping × Option Nat × Cursor) :=
  match c.head?.bind Chomping.ofSign? with
  | some chomping =>
    let c := c.skip
    if c.head?.any Char.isDigit then (c.head?.bind increment?).map fun n => (chomping, some n, c.skip)
    else some (chomping, none, c)
  | none =>
    if c.head?.any Char.isDigit then
      (c.head?.bind increment?).map fun n =>
        match c.skip.head?.bind Chomping.ofSign? with
        | some chomping => (chomping, some n, c.skip.skip)
        | none => (.clip, some n, c.skip)
    else some (.clip, none, c)

/-- Reads empty lines and the indentation of the line after them. An indentation of zero is not known yet; it is then
the column of the deepest line, but at least `least`. Returns the line ends and the indentation. -/
def blockBreaksFrom? (least indent deepest : Nat) (breaks : List Char) (c : Cursor) :
    Option (List Char × Nat × Cursor) :=
  let spaces := (c.rest.takeWhile (· = ' ')).length
  let c' := c.drop (if indent = 0 then spaces else min spaces (indent - c.column))
  let deepest := max deepest c'.column
  if (indent = 0 || c'.column < indent) && c'.head? = some '\t' then none
  else if c'.head?.any isBreak then
    if c'.skipBreak.2.rest.length < c.rest.length then
      blockBreaksFrom? least indent deepest (breaks ++ c'.skipBreak.1) c'.skipBreak.2
    else none
  else some (breaks, if indent = 0 then max deepest least else indent, c')
termination_by c.rest.length

structure BlockText where
  text : List Char
  /-- The end of the last line. -/
  ending : List Char
  /-- The line ends after it. -/
  breaks : List Char
  /-- Did the last line begin with a blank? -/
  blankStart : Bool

/-- The text in front of another line, which begins with a blank or not. Lines are folded unless one of the two begins
with a blank. -/
def BlockText.join (b : BlockText) (literal blankStart : Bool) : List Char :=
  if !literal && b.ending = ['\n'] && !b.blankStart && !blankStart then
    b.text ++ (if b.breaks.isEmpty then [' '] else b.breaks)
  else b.text ++ b.ending ++ b.breaks

/-- Reads the lines of a block at the column `indent`. -/
def blockLinesFrom? (literal : Bool) (indent : Nat) (b : BlockText) (c : Cursor) : Option (BlockText × Cursor) :=
  if c.column = indent && !c.rest.isEmpty then
    let blankStart := c.head?.any isGap
    let (line, after) := c.spanWhile (!isBreak ·)
    let (ending, after) := after.skipBreak
    match blockBreaksFrom? 0 indent 0 [] after with
    | none => none
    | some (breaks, _, next) =>
      if next.rest.length < c.rest.length then
        blockLinesFrom? literal indent ⟨b.join literal blankStart ++ line, ending, breaks, blankStart⟩ next
      else none
  else some (b, c)
termination_by c.rest.length

/-- Reads a block scalar from behind its sign, `outer` being the indentation of what holds it. -/
def block? (literal : Bool) (outer : Option Nat) (c : Cursor) : Option (List Char × Cursor) := do
  let (chomping, increment, c) ← blockSigns? c
  let c := (c.skipWhile isGap).skipComment
  if !c.endsLine then none
  else
    let c := c.skipBreak.2
    let indent := match increment with
      | none => 0
      | some n => outer.getD 0 + n
    let least := match outer with
      | none => 1
      | some n => n + 1
    let (breaks, indent, c) ← blockBreaksFrom? least indent 0 [] c
    let (b, c) ← blockLinesFrom? literal indent ⟨[], [], breaks, false⟩ c
    let ending := match chomping with
      | .strip => []
      | .clip => b.ending
      | .keep => b.ending ++ b.breaks
    return (b.text ++ ending, c)

end BuilderAudit.Yaml
