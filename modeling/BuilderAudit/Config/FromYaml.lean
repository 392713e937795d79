import BuilderAudit.Config.Field
import BuilderAudit.Yaml.CoreTag
import BuilderAudit.Yaml.Event

/-!
# Configurations in YAML

A configuration is a mapping whose keys name fields; a document without content is the default configuration. Any scalar
is a string, whatever it looks like. An enumeration value is its name, or a tag that is its name. Events are read one by
one, and the first fault that is met is the one reported; a fault of the text itself counts where its events end.

* `ScanConfig.ofYaml?` : the configuration of a text, or what is wrong with the text.
-/

namespace BuilderAudit.Config.FromYaml

open Yaml (Event Document)

/-- What is wrong with a node that is not of the type that was asked for. A scalar whose tag does not fit it is a wrong
value. -/
def mismatch : Event Nat → FormatError
  | .scalar _ (some tag) text _ => if Yaml.hasCoreType tag text then .invalidType else .invalidValue
  | _ => .invalidType

/-- Follows a reference at the front of some events. -/
def follow (d : Document) : List (Event Nat) → List (Event Nat)
  | .alias number :: _ => d.target number
  | events => events

def text (d : Document) (e : Event Nat) : Except FormatError String :=
  match follow d [e] with
  | [] => .error .malformed
  | .scalar _ _ s _ :: _ => .ok (String.ofList s)
  | e :: _ => .error (mismatch e)

/-- The texts of the nodes up to the end of a sequence, and the events after it. -/
def textsFrom (d : Document) : List (Event Nat) → Except FormatError (List String × List (Event Nat))
  | [] => .error .malformed
  | .sequenceEnd :: rest => .ok ([], rest)
  | e :: events => do
    let s ← text d e
    let (ss, rest) ← textsFrom d events
    return (s :: ss, rest)

/-- The texts of a sequence of nodes. A sequence that is not written is empty. -/
def texts (d : Document) (events : List (Event Nat)) : Except FormatError (List String × List (Event Nat)) :=
  match follow d events with
  | [] => .error .malformed
  | .sequenceStart _ _ :: items => do
    let (ss, rest) ← textsFrom d items
    return (ss, match events with | .alias _ :: rest => rest | _ => rest)
  | e :: _ =>
    match e with
    | .scalar _ _ [] true => .ok ([], events.drop 1)
    | e => .error (mismatch e)

/-- The name in a tag: what follows its exclamation mark, or the mark itself if nothing follows it. -/
def nameInTag? : List Char → Option (List Char)
  | ['!'] => some ['!']
  | '!' :: name => some name
  | _ => none

/-- What is wrong with the payload of an enumeration value, if anything is. There is only one payload, the null. -/
def payloadFault? : Event Nat → Option FormatError
  | .scalar _ _ s isPlain =>
    if isPlain && (s.isEmpty || Yaml.isNullWord s) then none else some .invalidValue
  | _ => some .invalidType

def variant {α : Type} (ofName? : String → Option α) (name : List Char) : Except FormatError α :=
  match ofName? (String.ofList name) with
  | none => .error (.unknownVariant (String.ofList name))
  | some value => .ok value

def tagOf? : Event Nat → Option (List Char)
  | .scalar _ tag _ _ | .sequenceStart _ tag | .mappingStart _ tag => tag
  | _ => none

def enumeration {α : Type} (d : Document) (ofName? : String → Option α) (e : Event Nat) : Except FormatError α :=
  match follow d [e] with
  | [] => .error .malformed
  | e :: _ =>
    match (tagOf? e).bind nameInTag?, e with
    | some name, e => do
      let value ← variant ofName? name
      match payloadFault? e with
      | none => return value
      | some fault => .error fault
    | none, .scalar _ _ s _ => variant ofName? s
    | none, _ => .error .invalidType

/-- The value of a field at the front of some events, and the events after it. -/
def value (d : Document) (f : Field) (events : List (Event Nat)) :
    Except FormatError (f.Value × List (Event Nat)) :=
  match f, events with
  | .sourceRoots, events => do
    let (roots, rest) ← texts d events
    return (roots.map Path.ofString, rest)
  | _, [] => .error .malformed
  | .destinationBase, e :: rest => do return (Path.ofString (← text d e), rest)
  | .builderNamespace, e :: rest | .pattern, e :: rest | .marker, e :: rest => do return (← text d e, rest)
  | .markerMatch, e :: rest => do return (← enumeration d MarkerMatch.ofName? e, rest)
  | .onReadError, e :: rest => do return (← enumeration d ReadErrorPolicy.ofName? e, rest)

def key (d : Document) (given : List Field) (e : Event Nat) : Except FormatError Field := do
  let name ← text d e
  match Field.ofKey? name with
  | none => .error (.unknownField name)
  | some f => if given.contains f then .error (.duplicateField f.name) else .ok f

/-- Reads the members of a mapping into a configuration, the fields in `given` being given before. No field is read
twice, so there are at most `fuel` members. -/
def membersFrom (d : Document) : (fuel : Nat) → List Field → ScanConfig → List (Event Nat) →
    Except FormatError ScanConfig
  | _, _, config, .mappingEnd :: _ => .ok config
  | _, _, _, [] => .error .malformed
  | 0, _, _, _ :: _ => .error .malformed
  | fuel + 1, given, config, e :: events => do
    let f ← key d given e
    let (v, rest) ← value d f events
    membersFrom d fuel (f :: given) (config.set f v) rest

def config (d : Document) : Except FormatError ScanConfig :=
  match d.events with
  | [] => if d.sound then .ok ScanConfig.default else .error .malformed
  | .mappingStart _ _ :: members => membersFrom d (Field.all.length + 1) [] ScanConfig.default members
  | .scalar _ _ [] true :: _ => .ok ScanConfig.default
  | e :: _ => .error (mismatch e)

end BuilderAudit.Config.FromYaml

namespace BuilderAudit

/-- The configuration of a YAML text. Nothing may follow its document. -/
def ScanConfig.ofYaml? (text : List Char) : Except FormatError ScanConfig := do
  let d := Yaml.Document.ofText text
  let config ← Config.FromYaml.config d
  if d.sound then return config else .error .malformed

end BuilderAudit
