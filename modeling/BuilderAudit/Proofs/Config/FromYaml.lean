import BuilderAudit.Proofs.Config.File
import BuilderAudit.Proofs.Yaml.Reading

/-!
# JSON configurations in YAML files

A configuration that is written as JSON is the same configuration for a reader of YAML, unless one of its strings has a
character that YAML does not take as it is.

* `takes_value`, `membersFrom_entries` : values and members;
* `ScanConfig.IsLiteral` : the configurations whose strings YAML takes as they are (`ScanConfig.textual_of_json?`);
* `ScanConfig.load_json_or_yaml` : what is written is loaded from either format.
-/

namespace BuilderAudit.Config.FromYaml

open Yaml (Document Event Textual eventsOf lexemes)

variable {d : Document} {rest : List (Event Nat)}

/-! ## Values -/

def quotedEvent (s : String) : Event Nat := .scalar none none s.toList false

theorem text_quotedEvent (s : String) : text d (quotedEvent s) = .ok s := by
  simp [text, follow, quotedEvent]

theorem textsFrom_quotedEvents (ss : List String) :
    textsFrom d (ss.map quotedEvent ++ .sequenceEnd :: rest) = .ok (ss, rest) := by
  induction ss with
  | nil => rfl
  | cons s ss ih =>
      rw [List.map_cons, List.cons_append, textsFrom, text_quotedEvent, ih]
      · rfl
      · intro h; cases h

theorem eventsOf_string (s : String) : eventsOf (lexemes (.string s)) ++ rest = quotedEvent s :: rest := rfl

theorem enumeration_quotedEvent {α : Type} {ofName? : String → Option α} {name : String} {v : α}
    (h : ofName? name = some v) : enumeration d ofName? (quotedEvent name) = .ok v := by
  simp [enumeration, follow, quotedEvent, tagOf?, variant, h]

theorem texts_array (ss : List String) :
    texts d (eventsOf (lexemes (.array (ss.map .string))) ++ rest) = .ok (ss, rest) := by
  have hitems : ((ss.map Json.string).flatMap fun j => eventsOf (lexemes j)) = ss.map quotedEvent := by
    rw [List.flatMap_map]
    exact List.flatMap_pure_eq_map quotedEvent ss
  rw [Yaml.eventsOf_array, hitems, List.cons_append, List.append_assoc, List.singleton_append]
  simp only [texts, follow, textsFrom_quotedEvents]
  rfl

/-- Of the values that stand for an enumeration value, only its name has no `null` in it. -/
theorem eq_string_of_names {j : Json} {name : String} (h : j.Names name) (hj : Textual j) : j = .string name := by
  rcases h with rfl | rfl
  · rfl
  · cases hj with | object _ hvalues =>
    cases hvalues _ (List.mem_singleton_self _)

/-- A value that stands for a value of a field is read as that. -/
theorem takes_value {f : Field} {j : Json} {v : f.Value} (h : f.Stands j v) (hj : Textual j) :
    value d f (eventsOf (lexemes j) ++ rest) = .ok (v, rest) := by
  cases f with
  | sourceRoots =>
      obtain ⟨ss, rfl, rfl⟩ := h
      simp only [value, texts_array]
      rfl
  | destinationBase =>
      obtain ⟨s, rfl, rfl⟩ := h
      simp only [value, eventsOf_string, text_quotedEvent]
      rfl
  | builderNamespace | pattern | marker =>
      obtain rfl : j = .string v := h
      simp only [value, eventsOf_string, text_quotedEvent]
      rfl
  | markerMatch =>
      obtain rfl := eq_string_of_names h hj
      simp only [value, eventsOf_string, enumeration_quotedEvent v.ofName?_name]
      rfl
  | onReadError =>
      obtain rfl := eq_string_of_names h hj
      simp only [value, eventsOf_string, enumeration_quotedEvent v.ofName?_name]
      rfl

/-! ## Members -/

def memberEvents (e : Entry) : List (Event Nat) := quotedEvent e.key :: eventsOf (lexemes e.json)

theorem key_quotedEvent {f : Field} {name : String} {given : List Field} (hname : f.Named name) (h : f ∉ given) :
    key d given (quotedEvent name) = .ok f := by
  simp [key, text_quotedEvent, bind, Except.bind, Field.ofKey?_eq_some_iff.mpr hname, h]

variable {es : List Entry}

theorem membersFrom_entries {fuel : Nat} {given : List Field} {config : ScanConfig}
    (htextual : ∀ e ∈ es, Textual e.json) (hnodup : (es.map Entry.field).Nodup) (hgiven : ∀ e ∈ es, e.field ∉ given)
    (hfuel : es.length ≤ fuel) :
    membersFrom d fuel given config (es.flatMap memberEvents ++ .mappingEnd :: rest) = .ok (config.setAll es) := by
  induction es generalizing fuel given config with
  | nil => cases fuel <;> rfl
  | cons e es ih =>
      rw [List.length_cons] at hfuel
      obtain ⟨fuel, rfl⟩ :=
        Nat.exists_eq_add_one_of_ne_zero (Nat.ne_of_gt (Nat.lt_of_lt_of_le es.length.succ_pos hfuel))
      rw [List.forall_mem_cons] at htextual hgiven
      rw [List.map_cons, List.nodup_cons] at hnodup
      have hmore : ∀ e' ∈ es, e'.field ∉ e.field :: given := by
        intro e' he'
        rw [List.mem_cons, not_or]
        exact ⟨fun h => hnodup.1 (h ▸ List.mem_map_of_mem he'), hgiven.2 e' he'⟩
      rw [List.flatMap_cons, memberEvents, List.cons_append, List.cons_append, List.append_assoc, membersFrom,
        key_quotedEvent e.named hgiven.1]
      · show (value d e.field _ >>= _ : Except FormatError ScanConfig) = _
        rw [takes_value e.stands htextual.1]
        exact ih htextual.2 hnodup.2 hmore (Nat.le_of_succ_le_succ hfuel)
      · intro h
        cases h

theorem config_object (places : List (Nat × Nat)) (sound : Bool) (htextual : ∀ e ∈ es, Textual e.json)
    (hnodup : (es.map Entry.field).Nodup) :
    config ⟨eventsOf (lexemes (.object (es.map Entry.member))), places, sound⟩ =
      .ok (ScanConfig.default.setAll es) := by
  have hlength : es.length ≤ Field.all.length := by
    have hsub := (hnodup.subperm fun f _ => f.mem_all).length_le
    rwa [List.length_map] at hsub
  rw [Yaml.eventsOf_object, List.flatMap_map]
  exact membersFrom_entries htextual hnodup (fun _ _ => List.not_mem_nil) (Nat.le_succ_of_le hlength)

end BuilderAudit.Config.FromYaml

namespace BuilderAudit

open Yaml (Textual)

/-! ## Configurations whose strings YAML takes as they are -/

/-- YAML takes each character of the text as it is. -/
def IsLiteral (s : String) : Prop := ∀ ch ∈ s.toList, Yaml.Literal ch

instance : DecidablePred IsLiteral := fun s => List.decidableBAll _ s.toList

def Path.IsLiteral (p : Path) : Prop := ∃ s, p.text? = some s ∧ BuilderAudit.IsLiteral s

/-- YAML takes the texts in a value of the field as they are. -/
def Field.IsLiteral : (f : Field) → f.Value → Prop
  | .sourceRoots, roots => ∀ root ∈ roots, root.IsLiteral
  | .destinationBase, path => path.IsLiteral
  | .builderNamespace, s | .pattern, s | .marker, s => BuilderAudit.IsLiteral s
  | .markerMatch, _ | .onReadError, _ => True

/-- The paths of the configuration are texts, and YAML takes all its strings as they are. -/
def ScanConfig.IsLiteral (config : ScanConfig) : Prop := ∀ f : Field, f.IsLiteral (config.get f)

theorem Path.textual_of_text? {p : Path} {s : String} (h : p.IsLiteral) (hs : p.text? = some s) :
    Textual (.string s) := by
  obtain ⟨s', hs', hliteral⟩ := h
  rw [hs, Option.some.injEq] at hs'
  exact .string (hs' ▸ hliteral)

theorem Field.textual_of_json? {f : Field} {v : f.Value} {j : Json} (h : f.IsLiteral v) (hj : f.json? v = some j) :
    Textual j := by
  cases f with
  | sourceRoots =>
      obtain ⟨items, hitems, rfl⟩ := Option.map_eq_some_iff.mp hj
      refine .array fun item hitem => ?_
      obtain ⟨root, hroot, hitem⟩ := mem_of_mapM hitems hitem
      obtain ⟨s, hs, rfl⟩ := Option.map_eq_some_iff.mp hitem
      exact Path.textual_of_text? (h root hroot) hs
  | destinationBase =>
      obtain ⟨s, hs, rfl⟩ := Option.map_eq_some_iff.mp hj
      exact Path.textual_of_text? h hs
  | builderNamespace | pattern | marker =>
      obtain rfl := Option.some.inj hj
      exact .string h
  | markerMatch =>
      obtain rfl := Option.some.inj hj
      have hname : BuilderAudit.IsLiteral v.name := by cases v <;> decide
      exact .string hname
  | onReadError =>
      obtain rfl := Option.some.inj hj
      have hname : BuilderAudit.IsLiteral v.name := by cases v <;> decide
      exact .string hname

theorem Field.isName_name (f : Field) : Yaml.IsName f.name.toList := by
  have hliteral : BuilderAudit.IsLiteral f.name := by cases f <;> decide
  exact ⟨hliteral, by cases f <;> decide⟩

namespace ScanConfig

variable {config : ScanConfig} {tree : FileTree} {path : Path} {text : List Char}

theorem textual_of_json? {value : Json} (h : config.IsLiteral) (hvalue : config.json? = some value) :
    Textual value := by
  rw [json?] at hvalue
  simp only [Option.bind_eq_bind, Option.bind_eq_some_iff, Option.pure_def, Option.some.injEq] at hvalue
  obtain ⟨members, hmembers, rfl⟩ := hvalue
  have hmember : ∀ m ∈ members, ∃ (f : Field) (j : Json), m = (f.name, j) ∧ f.json? (config.get f) = some j := by
    intro m hm
    obtain ⟨f, -, hf⟩ := mem_of_mapM hmembers hm
    obtain ⟨j, hj, rfl⟩ := Option.map_eq_some_iff.mp hf
    exact ⟨f, j, rfl, hj⟩
  refine .object (fun m hm => ?_) fun m hm => ?_
  · obtain ⟨f, j, rfl, -⟩ := hmember m hm
    exact f.isName_name
  · obtain ⟨f, j, rfl, hj⟩ := hmember m hm
    exact Field.textual_of_json? (h f) hj

/-- A configuration with strings that YAML takes as they are can be written. -/
theorem exists_json?_of_isLiteral (h : config.IsLiteral) : ∃ value, config.json? = some value := by
  have htext {p : Path} (hp : p.IsLiteral) : p.IsText := by
    obtain ⟨s, hs, -⟩ := hp
    exact Path.exists_text?_iff.mp ⟨s, hs⟩
  exact exists_json? (fun root hroot => htext (h .sourceRoots root hroot)) (htext (h .destinationBase))

/-! ## Files -/

/-- A configuration is read as YAML from what is written for it as JSON. -/
theorem ofYaml?_of_json? {value : Json} (h : config.IsLiteral) (hvalue : config.json? = some value)
    (ht : text = value.compact ∨ text = value.pretty 0) : ofYaml? text = .ok config := by
  have htextual := textual_of_json? h hvalue
  have hlaid : Yaml.Laid (Yaml.lexemes value) text := by
    rcases ht with rfl | rfl
    · exact Yaml.laid_compact htextual
    · exact Yaml.laid_pretty htextual 0
  have hdocument := Yaml.Document.ofText_laid htextual hlaid
  obtain ⟨es, rfl, hnodup, hconfig⟩ := exists_entries hvalue
  have hvalues : ∀ e ∈ es, Textual e.json := by
    cases htextual with | object _ hvalues =>
    exact fun e he => hvalues e.member (List.mem_map_of_mem he)
  have hread := Config.FromYaml.config_object [] true hvalues hnodup
  simp only [ofYaml?, hdocument, hread, ← hconfig, bind, Except.bind, pure, Except.pure, if_true]

theorem load_of_json?_yaml {value : Json} (h : config.IsLiteral) (hvalue : config.json? = some value)
    (htext : text = value.compact ∨ text = value.pretty 0) (hpath : path.HasExtension "yaml" ∨ path.HasExtension "yml")
    (hholds : tree.Holds path text) : load tree path = .ok config := by
  have hload : load tree path = (ofText? text .yaml).mapError (.unparsable path) := by
    rcases hpath with hpath | hpath
    · exact load_eq_of_format (by decide) hpath hholds
    · exact load_eq_of_format (by decide) hpath hholds
  rw [hload, ofText?, ofYaml?_of_json? h hvalue htext]
  rfl

/-- **A configuration is loaded from what is written for it as JSON, be the file one of JSON or of YAML.** -/
theorem load_json_or_yaml (config : ScanConfig) (h : config.IsLiteral) :
    ∃ value, config.json? = some value ∧ ∀ text, text = value.compact ∨ text = value.pretty 0 →
      ∀ (tree : FileTree) (path : Path),
        path.HasExtension "json" ∨ path.HasExtension "yaml" ∨ path.HasExtension "yml" → tree.Holds path text →
        load tree path = .ok config := by
  obtain ⟨value, hvalue⟩ := exists_json?_of_isLiteral h
  refine ⟨value, hvalue, fun text htext tree path hpath hholds => ?_⟩
  rcases hpath with hpath | hpath
  · exact load_of_json? hvalue htext hpath hholds
  · exact load_of_json?_yaml h hvalue htext hpath hholds

/-- A configuration with spaces, quotes, a backslash, control characters and a character beyond the first 65536 in its
strings. -/
def sampleLiteral : ScanConfig where
  sourceRoots := [.ofString "a \"b\\c", .ofString ""]
  destinationBase := .ofString " é\n"
  builderNamespace := "\x01: - #"
  pattern := ".*  "
  marker := "@\t😀"
  markerMatch := .legacy
  onReadError := .skip

/-- A tree with a value in three files, once over several lines and twice on one line. -/
def sampleCopies (value : Json) : FileTree where
  root := .directory .directory [((Path.ofString "a.Yaml").bytes, .file (Utf8.encode (value.pretty 0)) .file),
    ((Path.ofString "b.yml").bytes, .file (Utf8.encode value.compact) .file),
    ((Path.ofString "c.json").bytes, .file (Utf8.encode value.compact) .file)]
  cwd := []
  cwdRemoved := false

theorem sampleLiteral_load :
    sampleLiteral.IsLiteral ∧ ∃ value, sampleLiteral.json? = some value ∧
      load (sampleCopies value) (.ofString "a.Yaml") = .ok sampleLiteral ∧
      load (sampleCopies value) (.ofString "b.yml") = .ok sampleLiteral ∧
      load (sampleCopies value) (.ofString "c.json") = .ok sampleLiteral := by
  have hpath (s : String) (hs : BuilderAudit.IsLiteral s) : (Path.ofString s).IsLiteral :=
    ⟨s, Path.text?_eq_some_iff.mpr rfl, hs⟩
  have hliteral : sampleLiteral.IsLiteral := by
    intro f
    cases f with
    | sourceRoots =>
        exact List.forall_mem_cons.mpr ⟨hpath _ (by decide), List.forall_mem_singleton.mpr (hpath _ (by decide))⟩
    | destinationBase => exact hpath _ (by decide)
    | builderNamespace => exact (by decide : BuilderAudit.IsLiteral sampleLiteral.builderNamespace)
    | pattern => exact (by decide : BuilderAudit.IsLiteral sampleLiteral.pattern)
    | marker => exact (by decide : BuilderAudit.IsLiteral sampleLiteral.marker)
    | markerMatch | onReadError => trivial
  obtain ⟨value, hvalue, hload⟩ := load_json_or_yaml sampleLiteral hliteral
  refine ⟨hliteral, value, hvalue, ?_, ?_, ?_⟩
  · exact hload _ (Or.inr rfl) _ _ (Or.inr (Or.inl ⟨"Yaml".toList, by cbv, by decide⟩)) rfl
  · exact hload _ (Or.inl rfl) _ _ (Or.inr (Or.inr ⟨"yml".toList, by cbv, by decide⟩)) rfl
  · exact hload _ (Or.inl rfl) _ _ (Or.inl ⟨"json".toList, by cbv, by decide⟩) rfl

end ScanConfig

end BuilderAudit
