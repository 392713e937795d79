import BuilderAudit.Config.Field
import BuilderAudit.Json.Lexer

/-!
# Configurations in JSON

A configuration is an object whose keys name fields, or an array of the fields' values in order. Fields that are not
given keep their default values. The text is read from left to right, and the first fault that is met is the one
reported: the key of a member is judged before anything that follows it.

* `ScanConfig.ofJson?` : the configuration of a text, or what is wrong with the text.
-/

namespace BuilderAudit.Config.FromJson

open Json (skipSpace length_skipSpace_le)

/-- What is wrong with a value that is not of the type that was asked for. -/
def mismatch (cs : List Char) : FormatError :=
  match cs with
  | '[' :: _ | '{' :: _ => .invalidType
  | cs => if (Json.scalar? cs).isSome then .invalidType else .malformed

def text : Reader FormatError String := fun cs =>
  match skipSpace cs with
  | '"' :: cs =>
    match Json.string? cs with
    | none => .error .malformed
    | some (s, rest) => .ok (String.ofList s, rest)
  | cs => .error (mismatch cs)

theorem length_text {cs rest : List Char} {s : String} (h : text cs = .ok (s, rest)) : rest.length < cs.length := by
  have := length_skipSpace_le cs
  unfold text at h
  grind [→ Json.length_string?]

/-- Reads the items of an array of strings, behind the ones in `done`, which are in reverse. -/
def textsFrom (done : List String) (cs : List Char) : Except FormatError (List String × List Char) :=
  match _h : text cs with
  | .error e => .error e
  | .ok (s, rest) =>
    match _hn : Json.next? ']' rest with
    | none => .error .malformed
    | some (true, rest) => .ok ((s :: done).reverse, rest)
    | some (false, rest) => textsFrom (s :: done) rest
termination_by cs.length
decreasing_by
  have := length_text _h
  have := Json.length_next? _hn
  omega

def texts : Reader FormatError (List String) := fun cs =>
  match skipSpace cs with
  | '[' :: cs =>
    match skipSpace cs with
    | ']' :: rest => .ok ([], rest)
    | cs => textsFrom [] cs
  | cs => .error (mismatch cs)

/-- Reads the payload of an enumeration value and the brace behind it. There is only one payload, `null`. -/
def payload {α : Type} (value : α) : Reader FormatError α := fun cs =>
  match skipSpace cs with
  | ':' :: cs =>
    match Json.word? "null".toList (skipSpace cs) with
    | none => .error (mismatch (skipSpace cs))
    | some rest =>
      match skipSpace rest with
      | '}' :: rest => .ok (value, rest)
      | _ => .error .malformed
  | _ => .error .malformed

def variant {α : Type} (ofName? : String → Option α) (name : String) : Except FormatError α :=
  match ofName? name with
  | none => .error (.unknownVariant name)
  | some value => .ok value

/-- Reads an enumeration value: its name, or an object with its name for the key of a `null`. -/
def enumeration {α : Type} (ofName? : String → Option α) : Reader FormatError α := fun cs =>
  match skipSpace cs with
  | '"' :: cs' => do
    let (name, rest) ← text ('"' :: cs')
    return (← variant ofName? name, rest)
  | '{' :: cs => do
    let (name, rest) ← text cs
    let value ← variant ofName? name
    payload value rest
  | _ => .error .malformed

def value : (f : Field) → Reader FormatError f.Value
  | .sourceRoots => fun cs => do
    let (roots, rest) ← texts cs
    return (roots.map Path.ofString, rest)
  | .destinationBase => fun cs => do
    let (path, rest) ← text cs
    return (Path.ofString path, rest)
  | .builderNamespace | .pattern | .marker => text
  | .markerMatch => enumeration MarkerMatch.ofName?
  | .onReadError => enumeration ReadErrorPolicy.ofName?

/-- Reads a key and judges it: it names a field that has not been given before. -/
def key (given : List Field) : Reader FormatError Field := fun cs =>
  match skipSpace cs with
  | '"' :: cs => do
    let (name, rest) ← text ('"' :: cs)
    match Field.ofKey? name with
    | none => .error (.unknownField name)
    | some f => if given.contains f then .error (.duplicateField f.name) else .ok (f, rest)
  | _ => .error .malformed

def member (given : List Field) (config : ScanConfig) : Reader FormatError (Field × ScanConfig) := fun cs => do
  let (f, rest) ← key given cs
  match skipSpace rest with
  | ':' :: rest =>
    let (v, rest) ← value f rest
    return ((f, config.set f v), rest)
  | _ => .error .malformed

/-! ## Every reader takes at least one character -/

theorem length_textsFrom {done ss : List String} {cs rest : List Char} (h : textsFrom done cs = .ok (ss, rest)) :
    rest.length < cs.length := by
  fun_induction textsFrom done cs <;> grind [→ length_text, → Json.length_next?]

theorem length_texts {ss : List String} {cs rest : List Char} (h : texts cs = .ok (ss, rest)) :
    rest.length < cs.length := by
  have := length_skipSpace_le cs
  unfold texts at h
  grind [length_skipSpace_le, → length_textsFrom]

theorem length_payload {α : Type} {v w : α} {cs rest : List Char} (h : payload v cs = .ok (w, rest)) :
    rest.length < cs.length := by
  have h1 := length_skipSpace_le cs
  unfold payload at h
  split at h
  · rename_i cs' hc
    have h2 := length_skipSpace_le cs'
    split at h
    · simp at h
    · rename_i r hr
      have h3 := length_skipSpace_le r
      simp only [Json.word?, Option.ite_none_right_eq_some, Option.some.injEq] at hr
      grind
  · simp at h

theorem length_enumeration {α : Type} {ofName? : String → Option α} {v : α} {cs rest : List Char}
    (h : enumeration ofName? cs = .ok (v, rest)) : rest.length < cs.length := by
  have h1 := length_skipSpace_le cs
  unfold enumeration at h
  split at h
  · obtain ⟨⟨n, r⟩, hn, h⟩ := bind_eq_ok_iff.1 h
    obtain ⟨w, _, h⟩ := bind_eq_ok_iff.1 h
    grind [→ length_text, pure_eq_ok_iff]
  · obtain ⟨⟨n, r⟩, hn, h⟩ := bind_eq_ok_iff.1 h
    obtain ⟨w, _, h⟩ := bind_eq_ok_iff.1 h
    grind [→ length_text, → length_payload]
  · simp at h

theorem length_value {f : Field} {v : f.Value} {cs rest : List Char} (h : value f cs = .ok (v, rest)) :
    rest.length < cs.length := by
  cases f with
  | sourceRoots =>
    obtain ⟨⟨n, r⟩, hn, h⟩ := bind_eq_ok_iff.1 h
    grind [→ length_texts, pure_eq_ok_iff]
  | destinationBase =>
    obtain ⟨⟨n, r⟩, hn, h⟩ := bind_eq_ok_iff.1 h
    grind [→ length_text, pure_eq_ok_iff]
  | builderNamespace => exact length_text h
  | pattern => exact length_text h
  | marker => exact length_text h
  | markerMatch => exact length_enumeration h
  | onReadError => exact length_enumeration h

theorem length_key {given : List Field} {f : Field} {cs rest : List Char} (h : key given cs = .ok (f, rest)) :
    rest.length < cs.length := by
  have h1 := length_skipSpace_le cs
  unfold key at h
  split at h
  · obtain ⟨⟨n, r⟩, hn, h⟩ := bind_eq_ok_iff.1 h
    have := length_text hn
    simp only at h
    grind
  · simp at h

theorem length_member {given : List Field} {config : ScanConfig} {p : Field × ScanConfig} {cs rest : List Char}
    (h : member given config cs = .ok (p, rest)) : rest.length < cs.length := by
  obtain ⟨⟨f, r⟩, hf, h⟩ := bind_eq_ok_iff.1 h
  have h1 := length_skipSpace_le r
  have h2 := length_key hf
  simp only at h
  split at h
  · obtain ⟨⟨v, r'⟩, hv, h⟩ := bind_eq_ok_iff.1 h
    grind [→ length_value, pure_eq_ok_iff]
  · simp at h

/-! ## Whole texts -/

/-- Reads the members of an object up to its brace, the fields in `given` being given before. -/
def membersFrom (given : List Field) (config : ScanConfig) (cs : List Char) :
    Except FormatError (ScanConfig × List Char) :=
  match _h : member given config cs with
  | .error e => .error e
  | .ok ((f, config), rest) =>
    match _hn : Json.next? '}' rest with
    | none => .error .malformed
    | some (true, rest) => .ok (config, rest)
    | some (false, rest) => membersFrom (f :: given) config rest
termination_by cs.length
decreasing_by
  have := length_member _h
  have := Json.length_next? _hn
  omega

/-- Reads the values of an array up to its bracket into the given fields. -/
def valuesFrom (config : ScanConfig) : List Field → Reader FormatError ScanConfig
  | [], _ => .error .malformed
  | f :: fields, cs => do
    let (v, rest) ← value f cs
    match Json.next? ']' rest with
    | none => .error .malformed
    | some (true, rest) => return (config.set f v, rest)
    | some (false, rest) => valuesFrom (config.set f v) fields rest

def config : Reader FormatError ScanConfig := fun cs =>
  match skipSpace cs with
  | '{' :: cs =>
    match skipSpace cs with
    | '}' :: rest => .ok (ScanConfig.default, rest)
    | cs => membersFrom [] ScanConfig.default cs
  | '[' :: cs =>
    match skipSpace cs with
    | ']' :: rest => .ok (ScanConfig.default, rest)
    | cs => valuesFrom ScanConfig.default Field.all cs
  | cs => .error (mismatch cs)

end BuilderAudit.Config.FromJson

namespace BuilderAudit

/-- The configuration of a JSON text. Nothing but blanks may follow it. -/
def ScanConfig.ofJson? (cs : List Char) : Except FormatError ScanConfig := do
  let (config, rest) ← Config.FromJson.config cs
  if (Json.skipSpace rest).isEmpty then return config else .error .malformed

end BuilderAudit
