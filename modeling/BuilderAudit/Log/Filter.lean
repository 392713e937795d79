import BuilderAudit.Log.Event
import BuilderAudit.Pattern.FilePattern
import BuilderAudit.Text.Basic

/-!
# Log filters and verbosity

A filter is a list of directives with commas between them, such as `warn,builder_audit::config=debug`. A directive may
name a target, a span and fields, and gives the most detailed level that passes. The most specific rule that applies to
an event decides; an event to which no rule applies does not pass. This program opens no spans, so a directive for a
span or for the value of a field decides nothing.

* `Directive.ofText?` : the directive of a text;
* `Filter.ofText?` : the filter of a text, none if one of its directives is no directive;
* `Filter.passes` : does an event pass?
* `shown` : the events that are shown. A filter given by the environment takes the place of the one that the verbosity
  asks for, but a quiet run shows nothing.
-/

namespace BuilderAudit.Log

/-- The most detailed level that passes; nothing passes if there is none. -/
abbrev Threshold := Option Level

def Threshold.passes (t : Threshold) (level : Level) : Bool := t.any fun most => level.rank ≤ most.rank

def Threshold.ofNumber? : Nat → Option Threshold
  | 0 => some none
  | 1 => some (some .error)
  | 2 => some (some .warn)
  | 3 => some (some .info)
  | 4 => some (some .debug)
  | 5 => some (some .trace)
  | _ => none

/-- The number that decimal digits write, behind a plus sign or not. -/
def number? (cs : List Char) : Option Nat :=
  let digits := match cs with
    | '+' :: rest => rest
    | _ => cs
  if digits.isEmpty || !digits.all Char.isDigit then none
  else some (digits.foldl (fun n c => 10 * n + (c.toNat - '0'.toNat)) 0)

/-- The threshold that a text names: a number, or the name of a level in any letter case. -/
def Threshold.ofText? (cs : List Char) : Option Threshold :=
  match (number? cs).bind Threshold.ofNumber? with
  | some t => some t
  | none =>
    match String.ofList (cs.map Char.toLower) with
    | "error" | "" => some (some .error)
    | "warn" => some (some .warn)
    | "info" => some (some .info)
    | "debug" => some (some .debug)
    | "trace" => some (some .trace)
    | "off" => some none
    | _ => none

structure FieldTest where
  name : String
  /-- Is the value of the field tested as well? -/
  hasValue : Bool
  deriving DecidableEq, Repr

/-- The field test of a text. The value is a pattern. -/
def FieldTest.ofText? (cs : List Char) : Option FieldTest :=
  let name := String.ofList (cs.takeWhile (· != '='))
  match cs.dropWhile (· != '=') with
  | [] => some ⟨name, false⟩
  | _ :: rest =>
    match Pattern.compile (rest.takeWhile (· != '=')) with
    | .ok _ => some ⟨name, true⟩
    | .error _ => none

structure Directive where
  target : Option String
  span : Option String
  fields : List FieldTest
  threshold : Threshold
  deriving DecidableEq, Repr

namespace Directive

def start : Directive := ⟨none, none, [], some .trace⟩

/-- What the reading of a directive is in; `since` is the position where the piece starts that is being read. -/
inductive Stage
  | start
  | levelOrTarget (since : Nat)
  | span (since : Nat)
  | field (since : Nat)
  | afterFields
  | afterSpan
  | level (since : Nat)
  deriving DecidableEq, Repr

def canStart (c : Char) : Bool :=
  c = '[' || c = '-' || c = ':' || c = '_' ||
    ((Property.Query.resolve (.named "Alphabetic")).any fun s => s.contains c.toNat) ||
    ((Property.Query.resolve (.named "N")).any fun s => s.contains c.toNat)

/-- Reads the character at a position. `slice` gives the text from a position up to this one. -/
def step (slice : Nat → List Char) (position : Nat) (c : Char) : Stage → Directive → Option (Stage × Directive)
  | .start, d =>
    if !canStart c then none
    else if c = '[' then some (.span (position + 1), d) else some (.levelOrTarget position, d)
  | .levelOrTarget since, d =>
    if c = '=' then some (.level (position + 1), { d with target := some (String.ofList (slice since)) })
    else if c = '[' then some (.span (position + 1), { d with target := some (String.ofList (slice since)) })
    else some (.levelOrTarget since, d)
  | .span since, d =>
    if c = ']' then some (.afterSpan, { d with span := some (String.ofList (slice since)) })
    else if c = '{' then
      let name := slice since
      some (.field (position + 1), { d with span := if name.isEmpty then none else some (String.ofList name) })
    else some (.span since, d)
  | .field since, d =>
    if c = '}' then
      let text := slice since
      if text.isEmpty then none
      else (FieldTest.ofText? text).map fun test => (.afterFields, { d with fields := d.fields ++ [test] })
    else some (.field since, d)
  | .afterFields, d => if c = ']' then some (.afterSpan, d) else none
  | .afterSpan, d => if c = '=' then some (.level (position + 1), d) else none
  | .level since, d => some (.level since, d)

/-- The directive after the last character. `slice` gives the text from a position to the end. -/
def finish (slice : Nat → List Char) : Stage → Directive → Option Directive
  | .levelOrTarget since, d =>
    match Threshold.ofText? (slice since) with
    | some t => some { d with threshold := t }
    | none => some { d with target := some (String.ofList (slice since)) }
  | .level since, d =>
    if (slice since).isEmpty then some d
    else (Threshold.ofText? (slice since)).map fun t => { d with threshold := t }
  | .afterSpan, d => some d
  | _, _ => none

/-- The directive of a text. Blanks around the text are not read, but the positions of its pieces are those in the whole
text, so pieces are cut too early if there are blanks at the start. -/
def ofText? (text : List Char) : Option Directive := do
  let (stage, d) ← (Text.trim text).zipIdx.foldlM
    (fun (stage, d) (c, i) => step (fun since => (text.take i).drop since) i c stage d) (Stage.start, start)
  finish (fun since => text.drop since) stage d

end Directive

/-- A directive that decides about events. -/
structure Rule where
  target : Option String
  fields : List String
  threshold : Threshold
  deriving DecidableEq, Repr

namespace Rule

/-- The rule of a directive, if no span and no value is needed. -/
def ofDirective? (d : Directive) : Option Rule :=
  if d.span.isSome || d.fields.any FieldTest.hasValue then none
  else some ⟨d.target, d.fields.map FieldTest.name, d.threshold⟩

def appliesTo (r : Rule) (e : Event) : Bool :=
  (r.target.all fun t => t.toList.isPrefixOf e.target.toList) && r.fields.all fun f => e.fields.contains f

/-- The order of rules: longer targets, then more fields are greater. -/
def order (r s : Rule) : Ordering :=
  (compare (r.target.map String.utf8ByteSize) (s.target.map String.utf8ByteSize)).then <|
    (compare r.fields.length s.fields.length).then <|
      (compare r.target s.target).then (compare r.fields s.fields)

/-- Puts a rule among rules, the greatest of which comes first; it takes the place of an equal one. -/
def insert (r : Rule) : List Rule → List Rule
  | [] => [r]
  | s :: rules =>
    match r.order s with
    | .gt => r :: s :: rules
    | .eq => r :: rules
    | .lt => s :: insert r rules

end Rule

structure Filter where
  rules : List Rule
  deriving DecidableEq, Repr

namespace Filter

/-- The pieces of a text between commas, the empty ones left out. -/
def pieces (cs : List Char) : List (List Char) := (cs.splitOn ',').filter fun piece => !piece.isEmpty

/-- The filter of some directives. Errors pass if there are no directives. -/
def ofDirectives (ds : List Directive) : Filter :=
  if ds.isEmpty then ⟨[⟨none, [], some .error⟩]⟩
  else
    let (simple, others) := ds.partition fun d => d.span.isNone && d.fields.isEmpty
    ⟨((simple ++ others).filterMap Rule.ofDirective?).foldl (fun rules r => r.insert rules) []⟩

/-- The filter of a text, if all its pieces are directives. -/
def ofText? (text : String) : Option Filter := ((pieces text.toList).mapM Directive.ofText?).map ofDirectives

/-- The filter that lets the program's own events pass up to a level. -/
def upTo (level : Level) : Filter := ⟨[⟨some "builder_audit", [], some level⟩]⟩

def passes (f : Filter) (e : Event) : Bool :=
  match f.rules.find? fun r => r.appliesTo e with
  | some r => r.threshold.passes e.level
  | none => false

end Filter

/-! ## Verbosity -/

inductive Verbosity
  | quiet | normal | verbose | debug | trace
  deriving DecidableEq, Repr

namespace Verbosity

def ofFlags (verbose : Nat) (quiet : Bool) : Verbosity :=
  if quiet then .quiet
  else match verbose with
    | 0 => .normal
    | 1 => .verbose
    | 2 => .debug
    | _ => .trace

def level : Verbosity → Level
  | quiet => .error
  | normal => .warn
  | verbose => .info
  | debug => .debug
  | trace => .trace

/-- Is the place shown where an event comes from? -/
def isDetailed : Verbosity → Bool
  | debug | trace => true
  | _ => false

end Verbosity

/-- The filter that is in force: the one of the environment if it can be read, and otherwise that of the verbosity. -/
def Filter.inForce (verbosity : Verbosity) (setting : Option String) : Filter :=
  (setting.bind Filter.ofText?).getD (Filter.upTo verbosity.level)

/-- The events that are shown. -/
def shown (verbosity : Verbosity) (setting : Option String) (events : List Event) : List Event :=
  if verbosity = .quiet then [] else events.filter (Filter.inForce verbosity setting).passes

end BuilderAudit.Log
