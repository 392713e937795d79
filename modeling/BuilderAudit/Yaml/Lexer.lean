import BuilderAudit.Yaml.Token

/-!
# From YAML text to tokens

Indentation and keys are made visible as tokens. A key on a single line is only known to be one when its colon is
reached: the tokens behind a place where such a key may begin are held back until then (`Lexer.isHeld`), and the `key`
token, with the start of a block mapping if it is the first key, is put in front of them (`Lexer.colon?`).

* `tokens` : the tokens of a text, up to the first fault if there is one.
-/

namespace BuilderAudit.Yaml

/-- A place where a key on a single line may have begun. -/
structure KeyStart where
  /-- Must a colon follow? -/
  required : Bool
  /-- The number of tokens before it. -/
  number : Nat
  index : Nat
  line : Nat
  column : Nat

/-- The state between two tokens. -/
structure Lexer where
  cursor : Cursor
  /-- The tokens that have been read but not given out. -/
  queue : List Token
  /-- The number of tokens that have been given out. -/
  given : Nat
  /-- Where a key may have begun, for each open flow collection, the innermost first, and last for the block around. -/
  keys : List (Option KeyStart)
  /-- The columns of the open block collections, the innermost first. -/
  indents : List Nat
  /-- May a key begin here? -/
  keyAllowed : Bool

namespace Lexer

def start (text : List Char) : Lexer := ⟨Cursor.start text, [], 0, [none], [], true⟩

def inFlow (l : Lexer) : Bool := l.keys.length > 1

def emit (l : Lexer) (t : Token) : Lexer := { l with queue := l.queue ++ [t] }

/-- The state with a token put where the token of a given number stands. -/
def insert (l : Lexer) (number : Nat) (t : Token) : Lexer :=
  { l with queue := l.queue.take (number - l.given) ++ t :: l.queue.drop (number - l.given) }

def moveTo (l : Lexer) (c : Cursor) : Lexer := { l with cursor := c }

def allowKey (l : Lexer) (allowed : Bool) : Lexer := { l with keyAllowed := allowed }

/-! ## Keys -/

/-- Forgets where a key may have begun in the innermost collection. It is a fault if it had to be one. -/
def dropKey? (l : Lexer) : Option Lexer :=
  match l.keys with
  | some k :: keys => if k.required then none else some { l with keys := none :: keys }
  | _ => some l

/-- Notes that a key may begin here. In a block it has to be one if it stands at the column of the block's keys. -/
def noteKey? (l : Lexer) : Option Lexer :=
  if !l.keyAllowed then some l
  else do
    let l ← l.dropKey?
    let c := l.cursor
    let key : KeyStart :=
      ⟨!l.inFlow && l.indents.head? = some c.column, l.given + l.queue.length, c.index, c.line, c.column⟩
    return { l with keys := some key :: l.keys.drop 1 }

/-- Is the key too far behind? A key has at most 1024 characters and does not go over a line end. -/
def isStale (l : Lexer) (k : KeyStart) : Bool := k.line < l.cursor.line || k.index + 1024 < l.cursor.index

/-- Forgets where keys may have begun that are too far behind. It is a fault if one of them had to be a key. -/
def dropStale? (l : Lexer) : Option Lexer :=
  if l.keys.any fun k => k.any fun k => l.isStale k && k.required then none
  else some { l with keys := l.keys.map fun k => k.filter fun k => !l.isStale k }

/-! ## Indentation -/

/-- Opens a block collection at a column, if it is deeper than the one around. Its token is put in front of the token
with the given number. -/
def indent (l : Lexer) (column number : Nat) (t : Token) : Lexer :=
  if !l.inFlow && l.indents.head?.all (· < column) then
    { l.insert number t with indents := column :: l.indents }
  else l

def outdent (l : Lexer) (column : Nat) : Lexer :=
  if l.inFlow then l
  else
    let closed := l.indents.takeWhile (column < ·)
    { l with
      queue := l.queue ++ closed.map fun _ => .blockEnd
      indents := l.indents.drop closed.length }

def outdentAll (l : Lexer) : Lexer :=
  if l.inFlow then l
  else { l with queue := l.queue ++ l.indents.map (fun _ => .blockEnd), indents := [] }

def indentHere (l : Lexer) (t : Token) : Lexer := l.indent l.cursor.column (l.given + l.queue.length) t

/-! ## White space -/

/-- The cursor after a byte order mark at the start of a line, blanks and a comment. Tabs are no blanks where a key may
begin in a block. -/
def skipBlanks (l : Lexer) : Cursor :=
  let c := l.cursor
  let c := if c.column = 0 && c.head? = some '\uFEFF' then c.skip else c
  (c.skipWhile fun ch => ch = ' ' || ((l.inFlow || !l.keyAllowed) && ch = '\t')).skipComment

/-- The state after blanks, comments and line ends. Outside of flow collections a key may begin on every new line. -/
def skipSpace (l : Lexer) : Lexer :=
  if l.skipBlanks.head?.any isBreak then
    if l.skipBlanks.skipBreak.2.rest.length < l.cursor.rest.length then
      skipSpace { l with cursor := l.skipBlanks.skipBreak.2, keyAllowed := l.keyAllowed || !l.inFlow }
    else l.moveTo l.skipBlanks
  else l.moveTo l.skipBlanks
termination_by l.cursor.rest.length

/-! ## Single tokens -/

def finish? (l : Lexer) : Option Lexer := do
  let l ← l.outdentAll.dropKey?
  return (l.allowKey false).emit .streamEnd

/-- A sign at the start of a line that ends all block collections. -/
def topLevel? (l : Lexer) (read : Cursor → Option (Token × Cursor)) : Option Lexer := do
  let l ← l.outdentAll.dropKey?
  let (t, c) ← read l.cursor
  return ((l.allowKey false).emit t).moveTo c

def openFlow? (l : Lexer) (t : Token) : Option Lexer := do
  let l ← l.noteKey?
  return { l.emit t with keys := none :: l.keys, keyAllowed := true, cursor := l.cursor.skip }

def closeFlow? (l : Lexer) (t : Token) : Option Lexer := do
  let l ← l.dropKey?
  let keys := if l.inFlow then l.keys.drop 1 else l.keys
  return { l.emit t with keys, keyAllowed := false, cursor := l.cursor.skip }

def comma? (l : Lexer) : Option Lexer := do
  let l ← l.dropKey?
  return ((l.allowKey true).emit .flowEntry).moveTo l.cursor.skip

/-- A sign that begins an item of a block collection. -/
def blockSign? (l : Lexer) (collection t : Token) (keyAfter : Bool) : Option Lexer :=
  if !l.inFlow && !l.keyAllowed then none
  else do
    let l ← (l.indentHere collection).dropKey?
    return ((l.allowKey keyAfter).emit t).moveTo l.cursor.skip

/-- A colon: what was noted as the possible start of a key was one. -/
def colon? (l : Lexer) : Option Lexer :=
  match l.keys with
  | some k :: keys =>
    let l := { l.insert k.number .key with keys := none :: keys, keyAllowed := false }
    some (((l.indent k.column k.number .blockMappingStart).emit .value).moveTo l.cursor.skip)
  | _ =>
    if !l.inFlow && !l.keyAllowed then none
    else
      let l := (l.indentHere .blockMappingStart).allowKey !l.inFlow
      some ((l.emit .value).moveTo l.cursor.skip)

/-- A token that may begin a key. -/
def word? (l : Lexer) (read : Cursor → Option (Token × Cursor)) : Option Lexer := do
  let l ← l.noteKey?
  let (t, c) ← read l.cursor
  return ((l.allowKey false).emit t).moveTo c

/-- A block scalar. A key may begin behind it. -/
def blockScalar? (l : Lexer) (literal : Bool) : Option Lexer := do
  let l ← l.dropKey?
  let (text, c) ← block? literal l.indents.head? l.cursor.skip
  return ((l.allowKey true).emit (.scalar text false)).moveTo c

/-- A plain scalar. A key may begin behind it if it ends behind a line end. -/
def plainScalar? (l : Lexer) : Option Lexer := do
  let l ← l.noteKey?
  let indent := match l.indents.head? with
    | none => 0
    | some n => n + 1
  let (text, broken, c) ← plain? l.inFlow indent l.cursor
  return ((l.allowKey broken).emit (.scalar text true)).moveTo c

def quotedScalar? (l : Lexer) (quote : Char) : Option Lexer :=
  l.word? fun c => (quoted? quote c.skip).map fun (text, c) => (.scalar text false, c)

/-- May a plain scalar begin with the character? -/
def beginsPlain (l : Lexer) (ch : Char) : Bool :=
  let c := l.cursor
  if ch = '-' then !(c.ahead? 1).any isGap
  else if ch = '?' || ch = ':' then !l.inFlow && !c.endsWordAt 1
  else !(isGap ch || isFlowSign ch || "#&*!|>'\"%@".toList.contains ch || ch = '\u0060')

def token? (l : Lexer) (ch : Char) : Option Lexer :=
  let c := l.cursor
  if c.column = 0 && ch = '%' then l.topLevel? fun c => directive? c.skip
  else if c.atDocumentSign then
    l.topLevel? fun c => some (if ch = '-' then .documentStart else .documentEnd, c.drop 3)
  else if ch = '[' then l.openFlow? .flowSequenceStart
  else if ch = '{' then l.openFlow? .flowMappingStart
  else if ch = ']' then l.closeFlow? .flowSequenceEnd
  else if ch = '}' then l.closeFlow? .flowMappingEnd
  else if ch = ',' then l.comma?
  else if ch = '-' && c.endsWordAt 1 then l.blockSign? .blockSequenceStart .blockEntry true
  else if ch = '?' && (l.inFlow || c.endsWordAt 1) then l.blockSign? .blockMappingStart .key (!l.inFlow)
  else if ch = ':' && (l.inFlow || c.endsWordAt 1) then l.colon?
  else if ch = '*' then l.word? fun c => (anchorName? c.skip).map fun (name, c) => (.alias name, c)
  else if ch = '&' then l.word? fun c => (anchorName? c.skip).map fun (name, c) => (.anchor name, c)
  else if ch = '!' then l.word? (tag? l.inFlow)
  else if ch = '|' && !l.inFlow then l.blockScalar? true
  else if ch = '>' && !l.inFlow then l.blockScalar? false
  else if ch = '\'' || ch = '"' then l.quotedScalar? ch
  else if l.beginsPlain ch then l.plainScalar?
  else none

/-- Reads one more token, with all that its place implies. -/
def advance? (l : Lexer) : Option Lexer := do
  let l ← l.skipSpace.dropStale?
  let l := l.outdent l.cursor.column
  match l.cursor.head? with
  | none => l.finish?
  | some ch => l.token? ch

/-! ## Giving tokens out -/

/-- Is the next token held back, or not there yet? -/
def isHeld (l : Lexer) : Bool := l.queue.isEmpty || l.keys.any fun k => k.any fun k => k.number = l.given

/-- The tokens in at most `fuel` steps; `false` tells that a fault follows them. -/
def run : (fuel : Nat) → Lexer → List Token × Bool
  | 0, _ => ([], false)
  | fuel + 1, l =>
    match l.dropStale? with
    | none => ([], false)
    | some l =>
      if l.isHeld then
        match l.advance? with
        | none => ([], false)
        | some l => run fuel l
      else
        match l.queue with
        | [] => ([], false)
        | .streamEnd :: _ => ([.streamEnd], true)
        | t :: queue =>
          let (ts, complete) := run fuel { l with queue, given := l.given + 1 }
          (t :: ts, complete)

end Lexer

/-- The tokens of a text; `false` tells that a fault follows them. Each step reads a token or gives one out, and no more
than four tokens come from a character. -/
def tokens (text : List Char) : List Token × Bool :=
  if text.all isPrintable then (Lexer.start text).run (8 * (text.length + 2)) else ([], false)

end BuilderAudit.Yaml
