import BuilderAudit.Yaml.Lexer

/-!
# From YAML tokens to the events of a document

A document is read as a sequence of events: scalars, aliases, and the starts and ends of collections. `Reading.step?`
does what the innermost expectation asks for with the next tokens. Nodes that are not written are empty plain scalars.

* `Document.ofText` : the events of the first document of a text; `sound` tells that they are followed by nothing else.
-/

namespace BuilderAudit.Yaml

/-- The events of a document, `Ref` being what stands for a node that is referred to. -/
inductive Event (Ref : Type)
  /-- A reference to a node with an anchor. -/
  | alias (target : Ref)
  | scalar (anchor tag : Option (List Char)) (text : List Char) (isPlain : Bool)
  | sequenceStart (anchor tag : Option (List Char))
  | sequenceEnd
  | mappingStart (anchor tag : Option (List Char))
  | mappingEnd
  | documentEnd
  deriving DecidableEq, Repr

def Event.emptyScalar {Ref : Type} : Event Ref := .scalar none none [] true

def Event.anchor? {Ref : Type} : Event Ref → Option (List Char)
  | scalar anchor _ _ _ | sequenceStart anchor _ | mappingStart anchor _ => anchor
  | _ => none

inductive Expectation
  /-- A document, its first sign left out or not, or the end of the text. -/
  | document (first : Bool)
  /-- What follows the sign of a document. -/
  | documentContent
  | documentEnd
  | node (block indentless : Bool)
  | blockEntry | indentlessEntry
  | blockKey | blockValue
  | flowEntry (first : Bool)
  /-- The parts of a single pair in a flow sequence. -/
  | pairKey | pairValue | pairEnd
  | flowKey (first : Bool)
  | flowValue (absent : Bool)
  deriving DecidableEq, Repr

/-- The state between two events. -/
structure Reading where
  tokens : List Token
  /-- What is expected, the innermost first. -/
  expected : List Expectation
  /-- The handles of tags with what they stand for. -/
  handles : List (List Char × List Char)

namespace Reading

/-- What handles stand for if no directive says otherwise. -/
def defaultHandles : List (List Char × List Char) :=
  [(['!'], ['!']), (['!', '!'], "tag:yaml.org,2002:".toList)]

def start (tokens : List Token) : Reading := ⟨tokens, [.document true], []⟩

def next (r : Reading) (tokens : List Token) (more : List Expectation) : Reading :=
  { r with tokens, expected := more ++ r.expected }

/-! ## Documents -/

/-- Reads the directives in front of a document. There is one version directive at most, and one for each handle. -/
def directives? (versionSeen : Bool) (handles : List (List Char × List Char)) :
    List Token → Option (List (List Char × List Char) × List Token)
  | .versionDirective major minor :: ts =>
    if versionSeen || major != 1 || (minor != 1 && minor != 2) then none else directives? true handles ts
  | .tagDirective handle stem :: ts =>
    if handles.any fun (h, _) => h = handle then none else directives? versionSeen (handles ++ [(handle, stem)]) ts
  | ts => some (handles, ts)

/-- Reads what may stand at the start of a document, or the end of the text. -/
def document? (r : Reading) (first : Bool) : Option (List (Event (List Char)) × Reading) :=
  let tokens := if first then r.tokens else r.tokens.dropWhile (· = .documentEnd)
  match tokens with
  | [] => none
  | .streamEnd :: ts => some ([], r.next ts [])
  | ts@(t :: _) =>
    let signed := match t with
      | .versionDirective _ _ | .tagDirective _ _ | .documentStart => true
      | _ => false
    if first && !signed then
      some ([], { r.next ts [.node true false, .documentEnd] with handles := defaultHandles })
    else
      match directives? false [] ts with
      | some (handles, .documentStart :: ts) =>
        some ([], { r.next ts [.documentContent, .documentEnd] with handles := handles ++ defaultHandles })
      | _ => none

/-! ## Nodes -/

def tag? (r : Reading) (handle suffix : List Char) : Option (List Char) :=
  if handle.isEmpty then some suffix
  else (r.handles.find? fun (h, _) => h = handle).map fun (_, stem) => stem ++ suffix

/-- The anchor and the tag of a node, in either order. -/
structure Properties where
  anchor : Option (List Char)
  tag : Option (List Char)

def properties? (r : Reading) : Option (Properties × List Token) :=
  match r.tokens with
  | .anchor name :: .tag handle suffix :: ts => (r.tag? handle suffix).map fun tag => (⟨some name, some tag⟩, ts)
  | .anchor name :: ts => some (⟨some name, none⟩, ts)
  | .tag handle suffix :: .anchor name :: ts => (r.tag? handle suffix).map fun tag => (⟨some name, some tag⟩, ts)
  | .tag handle suffix :: ts => (r.tag? handle suffix).map fun tag => (⟨none, some tag⟩, ts)
  | ts => some (⟨none, none⟩, ts)

/-- Reads a node, or its beginning if it is a collection. A sequence without indentation of its own may be the value of
a block mapping. -/
def node? (r : Reading) (block indentless : Bool) : Option (List (Event (List Char)) × Reading) :=
  match r.tokens with
  | .alias name :: ts => some ([.alias name], r.next ts [])
  | _ => do
    let (p, ts) ← r.properties?
    match ts with
    | [] => none
    | .blockEntry :: _ =>
      if indentless then some ([.sequenceStart p.anchor p.tag], r.next ts [.indentlessEntry]) else absent p ts
    | .scalar text isPlain :: ts =>
      let tag := if p.tag = some ['!'] then none else p.tag
      some ([.scalar p.anchor tag text isPlain], r.next ts [])
    | .flowSequenceStart :: ts => some ([.sequenceStart p.anchor p.tag], r.next ts [.flowEntry true])
    | .flowMappingStart :: ts => some ([.mappingStart p.anchor p.tag], r.next ts [.flowKey true])
    | .blockSequenceStart :: rest =>
      if block then some ([.sequenceStart p.anchor p.tag], r.next rest [.blockEntry]) else absent p ts
    | .blockMappingStart :: rest =>
      if block then some ([.mappingStart p.anchor p.tag], r.next rest [.blockKey]) else absent p ts
    | ts => absent p ts
where
  /-- A node of which there is at most an anchor or a tag. -/
  absent (p : Properties) (ts : List Token) : Option (List (Event (List Char)) × Reading) :=
    if p.anchor.isSome || p.tag.isSome then some ([.scalar p.anchor p.tag [] true], r.next ts []) else none

/-- Does a node follow, or one of the given tokens in its place? -/
def isAbsent (ends : List Token) : List Token → Bool
  | [] => false
  | t :: _ => ends.contains t

/-- Reads a node behind a sign, unless one of the tokens `ends` follows at once. Then `after` is expected. -/
def optional? (r : Reading) (ts ends : List Token) (n after : Expectation) :
    Option (List (Event (List Char)) × Reading) :=
  if ts.isEmpty then none
  else if isAbsent ends ts then some ([.emptyScalar], r.next ts [after])
  else some ([], r.next ts [n, after])

/-! ## Collections -/

def blockValueEnds : List Token := [.key, .value, .blockEnd]

/-- Reads an item of a flow sequence. An item may be a single pair. -/
def flowItem? (r : Reading) : List Token → Option (List (Event (List Char)) × Reading)
  | [] => none
  | .flowSequenceEnd :: ts => some ([.sequenceEnd], r.next ts [])
  | .key :: ts => some ([.mappingStart none none], r.next ts [.pairKey, .flowEntry false])
  | ts => some ([], r.next ts [.node false false, .flowEntry false])

def flowMember? (r : Reading) : List Token → Option (List (Event (List Char)) × Reading)
  | [] => none
  | .flowMappingEnd :: ts => some ([.mappingEnd], r.next ts [])
  | .key :: ts => r.optional? ts [.value, .flowEntry, .flowMappingEnd] (.node false false) (.flowValue false)
  | ts => some ([], r.next ts [.node false false, .flowValue true])

/-- Does what `e` asks for, `r` being the state without it. -/
def meet? (r : Reading) : Expectation → Option (List (Event (List Char)) × Reading)
  | .document first => r.document? first
  | .documentContent =>
    match r.tokens with
    | [] => none
    | .versionDirective _ _ :: _ | .tagDirective _ _ :: _ | .documentStart :: _ | .documentEnd :: _ | .streamEnd :: _ =>
      some ([.emptyScalar], r)
    | _ => r.node? true false
  | .documentEnd =>
    match r.tokens with
    | [] => none
    | .documentEnd :: ts => some ([.documentEnd], r.next ts [.document false])
    | ts => some ([.documentEnd], r.next ts [.document false])
  | .node block indentless => r.node? block indentless
  | .blockEntry =>
    match r.tokens with
    | .blockEntry :: ts => r.optional? ts [.blockEntry, .blockEnd] (.node true false) .blockEntry
    | .blockEnd :: ts => some ([.sequenceEnd], r.next ts [])
    | _ => none
  | .indentlessEntry =>
    match r.tokens with
    | [] => none
    | .blockEntry :: ts => r.optional? ts (.blockEntry :: blockValueEnds) (.node true false) .indentlessEntry
    | ts => some ([.sequenceEnd], r.next ts [])
  | .blockKey =>
    match r.tokens with
    | .key :: ts => r.optional? ts blockValueEnds (.node true true) .blockValue
    | .blockEnd :: ts => some ([.mappingEnd], r.next ts [])
    | _ => none
  | .blockValue =>
    match r.tokens with
    | [] => none
    | .value :: ts => r.optional? ts blockValueEnds (.node true true) .blockKey
    | ts => some ([.emptyScalar], r.next ts [.blockKey])
  | .flowEntry first =>
    match first, r.tokens with
    | true, ts => r.flowItem? ts
    | false, .flowSequenceEnd :: ts => some ([.sequenceEnd], r.next ts [])
    | false, .flowEntry :: ts => r.flowItem? ts
    | false, _ => none
  | .pairKey =>
    match r.tokens with
    | [] => none
    | .value :: ts | .flowEntry :: ts | .flowSequenceEnd :: ts => some ([.emptyScalar], r.next ts [.pairValue])
    | ts => some ([], r.next ts [.node false false, .pairValue])
  | .pairValue =>
    match r.tokens with
    | [] => none
    | .value :: ts => r.optional? ts [.flowEntry, .flowSequenceEnd] (.node false false) .pairEnd
    | ts => some ([.emptyScalar], r.next ts [.pairEnd])
  | .pairEnd => some ([.mappingEnd], r)
  | .flowKey first =>
    match first, r.tokens with
    | true, ts => r.flowMember? ts
    | false, .flowMappingEnd :: ts => some ([.mappingEnd], r.next ts [])
    | false, .flowEntry :: ts => r.flowMember? ts
    | false, _ => none
  | .flowValue absent =>
    match absent, r.tokens with
    | _, [] => none
    | false, .value :: ts => r.optional? ts [.flowEntry, .flowMappingEnd] (.node false false) (.flowKey false)
    | _, ts => some ([.emptyScalar], r.next ts [.flowKey false])

/-- The events in at most `fuel` steps; `false` tells that a fault follows them. -/
def run : (fuel : Nat) → Reading → List (Event (List Char)) × Bool
  | 0, _ => ([], false)
  | fuel + 1, r =>
    match r.expected with
    | [] => ([], true)
    | e :: expected =>
      match { r with expected }.meet? e with
      | none => ([], false)
      | some (events, r) =>
        let (more, complete) := run fuel r
        (events ++ more, complete)

end Reading

/-! ## References -/

/-- The anchors that have been met: a number for each name, and the place of the event that has the number. -/
structure Anchors where
  numbers : List (List Char × Nat)
  places : List (Nat × Nat)

namespace Anchors

/-- Notes the anchor of the event at a place. Its number is the number of different names before it, also if the name
itself is not new. -/
def note (a : Anchors) (name : List Char) (place : Nat) : Anchors :=
  let number := a.numbers.length
  ⟨(name, number) :: a.numbers.filter fun (other, _) => other != name, (number, place) :: a.places⟩

end Anchors

/-- Replaces the names in references by numbers up to the first name that is not known; `false` tells that there is
one. -/
def link (a : Anchors) (place : Nat) : List (Event (List Char)) → List (Event Nat) × Anchors × Bool
  | [] => ([], a, true)
  | e :: events =>
    let a := match e.anchor? with
      | none => a
      | some name => a.note name place
    let linked : Option (Event Nat) := match e with
      | .alias name => (a.numbers.lookup name).map .alias
      | .scalar anchor tag text isPlain => some (.scalar anchor tag text isPlain)
      | .sequenceStart anchor tag => some (.sequenceStart anchor tag)
      | .sequenceEnd => some .sequenceEnd
      | .mappingStart anchor tag => some (.mappingStart anchor tag)
      | .mappingEnd => some .mappingEnd
      | .documentEnd => some .documentEnd
    match linked with
    | none => ([], a, false)
    | some e =>
      let (more, a, complete) := link a (place + 1) events
      (e :: more, a, complete)

structure Document where
  events : List (Event Nat)
  /-- The places of the events that references stand for. -/
  places : List (Nat × Nat)
  /-- Is it the only document, with no fault in it or behind it? -/
  sound : Bool

namespace Document

/-- The first document of a text. No token is waited for in more than eight steps. -/
def ofText (text : List Char) : Document :=
  let (ts, lexed) := tokens text
  let (events, complete) := (Reading.start ts).run (8 * (ts.length + 2))
  let first := events.takeWhile (· != .documentEnd)
  let (linked, anchors, known) := link ⟨[], []⟩ 0 first
  ⟨linked, anchors.places, lexed && complete && known && events.length ≤ first.length + 1⟩

/-- The events from a node that is referred to. -/
def target (d : Document) (number : Nat) : List (Event Nat) :=
  match d.places.lookup number with
  | none => []
  | some place => d.events.drop place

end Document

end BuilderAudit.Yaml
