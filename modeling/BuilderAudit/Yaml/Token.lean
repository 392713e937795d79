import BuilderAudit.Text.Utf8
import BuilderAudit.Yaml.Scalar

/-!
# Tokens of YAML

Besides scalars, the tokens with a text of their own are anchors, aliases, tags and directives. Each reader starts
behind the sign of its token and answers `none` if the token is malformed.
-/

namespace BuilderAudit.Yaml

inductive Token
  | versionDirective (major minor : Nat)
  | tagDirective (handle stem : List Char)
  | documentStart | documentEnd
  | blockSequenceStart | blockMappingStart | blockEnd
  | flowSequenceStart | flowSequenceEnd
  | flowMappingStart | flowMappingEnd
  | blockEntry | flowEntry
  | key | value
  | alias (name : List Char)
  | anchor (name : List Char)
  /-- A tag by the handle of a directive and a suffix; without a handle the suffix is the whole tag. -/
  | tag (handle suffix : List Char)
  | scalar (text : List Char) (isPlain : Bool)
  | streamEnd
  deriving DecidableEq, Repr

/-! ## Anchors -/

def endsAnchor (c : Char) : Bool :=
  isGap c || isBreak c || c = '?' || c = ':' || c = ',' || c = ']' || c = '}' || c = '%' || c = '@' || c = '\u0060'

def anchorName? (c : Cursor) : Option (List Char × Cursor) :=
  let (name, c) := c.spanWhile isNameChar
  if !name.isEmpty && c.head?.all endsAnchor then some (name, c) else none

/-! ## Tags -/

/-- Reads the handle of a tag: an exclamation mark, and maybe a name with another one behind it. -/
def handle? (c : Cursor) : Option (List Char × Cursor) :=
  if c.head? = some '!' then
    let (name, c) := c.skip.spanWhile isNameChar
    if c.head? = some '!' then some ('!' :: name ++ ['!'], c.skip) else some ('!' :: name, c)
  else none

/-- May the character stand in a tag? In a verbatim tag some flow signs may. -/
def isTagChar (verbatim : Bool) (c : Char) : Bool :=
  isNameChar c || ";/?:@&=+$.!~*'()".toList.contains c || (verbatim && (c = ',' || c = '[' || c = ']'))

def escapedByte? (c : Cursor) : Option (UInt8 × Cursor) :=
  match c.rest with
  | '%' :: a :: b :: _ => do return (UInt8.ofNat ((← hexValue? a) * 16 + (← hexValue? b)), c.drop 3)
  | _ => none

/-- The number of bytes of a character, by its first byte. -/
def byteCount? (b : UInt8) : Option Nat :=
  if b < 0x80 then some 1
  else if 0xC0 ≤ b && b < 0xE0 then some 2
  else if 0xE0 ≤ b && b < 0xF0 then some 3
  else if 0xF0 ≤ b && b < 0xF8 then some 4
  else none

/-- Reads escaped bytes that continue a character. -/
def continuation? : (count : Nat) → Cursor → Option (List UInt8 × Cursor)
  | 0, c => some ([], c)
  | count + 1, c => do
    let (b, c) ← escapedByte? c
    if 0x80 ≤ b && b < 0xC0 then
      let (bytes, c) ← continuation? count c
      return (b :: bytes, c)
    else none

/-- Reads a character of which each byte is escaped. -/
def escapedBytes? (c : Cursor) : Option (List Char × Cursor) := do
  let (b, c) ← escapedByte? c
  let count ← byteCount? b
  let (bytes, c) ← continuation? (count - 1) c
  return (Utf8.decodeLossy (b :: bytes), c)

def tagText? (verbatim : Bool) (c : Cursor) : Option (List Char × Cursor) :=
  match _h : c.head? with
  | none => some ([], c)
  | some ch =>
    if ch = '%' then
      match escapedBytes? c with
      | none => none
      | some (text, next) =>
        if next.rest.length < c.rest.length then (tagText? verbatim next).map fun (more, c) => (text ++ more, c)
        else none
    else if isTagChar verbatim ch then (tagText? verbatim c.skip).map fun (more, c) => (ch :: more, c)
    else some ([], c)
termination_by c.rest.length
decreasing_by
  · assumption
  · exact Cursor.length_skip_lt (by intro hr; simp [Cursor.head?, hr] at _h)

/-- Reads a tag without looking at what follows it. -/
def tagToken? (c : Cursor) : Option (Token × Cursor) :=
  if c.ahead? 1 = some '<' then do
    let (suffix, c) ← tagText? true (c.drop 2)
    if !suffix.isEmpty && c.head? = some '>' then some (.tag [] suffix, c.skip) else none
  else do
    let (handle, c) ← handle? c
    if handle.length > 1 && handle.getLast? = some '!' then
      let (suffix, c) ← tagText? false c
      if suffix.isEmpty then none else some (.tag handle suffix, c)
    else
      let (more, c) ← tagText? false c
      let suffix := handle.drop 1 ++ more
      some (if suffix.isEmpty then .tag [] ['!'] else .tag ['!'] suffix, c)

/-- Reads a tag. White space follows it, or a comma in a flow collection. -/
def tag? (inFlow : Bool) (c : Cursor) : Option (Token × Cursor) := do
  let (token, c) ← tagToken? c
  if c.endsWordAt 0 || (inFlow && c.head? = some ',') then some (token, c) else none

/-! ## Directives -/

def versionNumber? (c : Cursor) : Option (Nat × Cursor) :=
  let (digits, c) := c.spanWhile Char.isDigit
  if digits.isEmpty || digits.length > 9 then none
  else some (digits.foldl (fun n d => n * 10 + (d.toNat - 0x30)) 0, c)

/-- Reads the value of a version directive. -/
def version? (c : Cursor) : Option (Token × Cursor) := do
  let (major, c) ← versionNumber? (c.skipWhile isGap)
  if c.head? != some '.' then none
  else
    let (minor, c) ← versionNumber? c.skip
    return (.versionDirective major minor, c)

/-- Reads the value of a tag directive: a handle and what it stands for. -/
def tagDirective? (c : Cursor) : Option (Token × Cursor) := do
  let (handle, c) ← handle? (c.skipWhile isGap)
  if !(handle = ['!'] || (handle.length > 1 && handle.getLast? = some '!')) || !c.head?.any isGap then none
  else
    let (stem, c) ← tagText? true (c.skipWhile isGap)
    if stem.isEmpty || !c.endsWordAt 0 then none else some (.tagDirective handle stem, c)

/-- Reads a directive with the rest of its line. -/
def directive? (c : Cursor) : Option (Token × Cursor) := do
  let (name, c) := c.spanWhile isNameChar
  let (token, c) ←
    if !c.endsWordAt 0 then none
    else if name = "YAML".toList then version? c
    else if name = "TAG".toList then tagDirective? c
    else none
  let c := (c.skipWhile isGap).skipComment
  if c.endsLine then some (token, c.skipBreak.2) else none

end BuilderAudit.Yaml
