import BuilderAudit.Config.Field
import BuilderAudit.Proofs.Text.Utf8
import BuilderAudit.Proofs.Traversal

/-!
# The fields of a configuration and their values

A key names a field in one of two ways, a configuration is the values of its fields, and a JSON value stands for one
value of a field.

* `Field.ofKey?_eq_some_iff`, `Field.ofKey?_eq_none_iff` : what a key names;
* `ScanConfig.get_set_self`, `ScanConfig.get_set_of_ne`, `ScanConfig.ext_get` : a configuration is what `get` shows of
  it;
* `Field.Stands` : the JSON values that stand for a value of a field;
* `Entry` : a value of a field with a key and a JSON value for it;
* `ScanConfig.Replaces` : a configuration with some fields replaced, and nothing else (`replaces_setAll`);
* `ScanConfig.exists_json?`, `ScanConfig.entries_of_json?`, `ScanConfig.exists_entries` : a configuration as JSON, field
  by field.
-/

namespace BuilderAudit

/-! ## Keys -/

namespace Field

variable {key : String} {f : Field}

def Named (f : Field) (key : String) : Prop := key = f.name ∨ key = f.camelName

theorem mem_all (f : Field) : f ∈ all := by cases f <;> decide

theorem ofKey?_name (f : Field) : ofKey? f.name = some f := by cases f <;> decide

theorem ofKey?_camelName (f : Field) : ofKey? f.camelName = some f := by cases f <;> decide

theorem ofKey?_eq_some_iff : ofKey? key = some f ↔ f.Named key := by
  constructor
  · intro h
    have hfound := List.find?_some h
    rwa [Bool.or_eq_true, beq_iff_eq, beq_iff_eq] at hfound
  · rintro (rfl | rfl)
    · exact ofKey?_name f
    · exact ofKey?_camelName f

theorem ofKey?_eq_none_iff : ofKey? key = none ↔ ∀ f : Field, ¬ f.Named key := by
  simp only [← ofKey?_eq_some_iff]
  cases ofKey? key <;> simp

theorem named_name (f : Field) : f.Named f.name := Or.inl rfl

end Field

/-! ## Fields of a configuration -/

namespace ScanConfig

variable {config other : ScanConfig} {f g : Field}

@[simp] theorem get_set_self (config : ScanConfig) (f : Field) (v : f.Value) : (config.set f v).get f = v := by
  cases f <;> rfl

theorem get_set_of_ne (h : g ≠ f) (v : f.Value) : (config.set f v).get g = config.get g := by
  cases f <;> cases g <;> first | rfl | exact absurd rfl h

/-- A configuration is the values of its fields. -/
theorem ext_get (h : ∀ f, config.get f = other.get f) : config = other := by
  cases config
  cases other
  rw [mk.injEq]
  exact ⟨h .sourceRoots, h .destinationBase, h .builderNamespace, h .pattern, h .marker, h .markerMatch, h .onReadError⟩

end ScanConfig

/-! ## Values -/

theorem MarkerMatch.ofName?_name (mode : MarkerMatch) : ofName? mode.name = some mode := by cases mode <;> decide

theorem ReadErrorPolicy.ofName?_name (policy : ReadErrorPolicy) : ofName? policy.name = some policy := by
  cases policy <;> decide

/-- The JSON values that stand for an enumeration value with a given name: the name, or an object with the name for the
key of a `null`. -/
def Json.Names (j : Json) (name : String) : Prop := j = .string name ∨ j = .object [(name, .null)]

/-- The JSON values that stand for a value of a field. -/
def Field.Stands : (f : Field) → Json → f.Value → Prop
  | .sourceRoots, j, roots => ∃ texts : List String, j = .array (texts.map .string) ∧ texts.map Path.ofString = roots
  | .destinationBase, j, path => ∃ text, j = .string text ∧ Path.ofString text = path
  | .builderNamespace, j, text | .pattern, j, text | .marker, j, text => j = .string text
  | .markerMatch, j, mode => j.Names mode.name
  | .onReadError, j, policy => j.Names policy.name

/-- What is written for a value of a field stands for it. -/
theorem Field.stands_of_json? {f : Field} {v : f.Value} {j : Json} (h : f.json? v = some j) : f.Stands j v := by
  cases f with
  | sourceRoots =>
      obtain ⟨items, hitems, rfl⟩ := Option.map_eq_some_iff.mp h
      clear h
      induction v generalizing items with
      | nil =>
          rw [List.mapM_nil] at hitems
          cases hitems
          exact ⟨[], rfl, rfl⟩
      | cons root roots ih =>
          rw [List.mapM_cons] at hitems
          simp only [Option.bind_eq_bind, Option.bind_eq_some_iff, Option.map_eq_some_iff, Option.pure_def,
            Option.some.injEq] at hitems
          obtain ⟨_, ⟨text, htext, rfl⟩, rest, hrest, rfl⟩ := hitems
          obtain ⟨texts, htexts, hroots⟩ := ih rest hrest
          rw [Json.array.injEq] at htexts
          exact ⟨text :: texts, by rw [htexts]; rfl, by rw [List.map_cons, hroots, Path.text?_eq_some_iff.mp htext]⟩
  | destinationBase =>
      obtain ⟨text, htext, rfl⟩ := Option.map_eq_some_iff.mp h
      exact ⟨text, rfl, Path.text?_eq_some_iff.mp htext⟩
  | builderNamespace | pattern | marker => exact (Option.some.inj h).symm
  | markerMatch | onReadError => exact Or.inl (Option.some.inj h).symm

/-! ## Entries -/

/-- A value of a field, with a key that names the field and a JSON value that stands for the value. -/
structure Entry where
  field : Field
  value : field.Value
  key : String
  json : Json
  named : field.Named key
  stands : field.Stands json value

def Entry.member (e : Entry) : String × Json := (e.key, e.json)

namespace ScanConfig

variable {config base other : ScanConfig} {entries : List Entry}

/-- The configuration with the fields of some entries replaced. -/
def setAll (config : ScanConfig) (entries : List Entry) : ScanConfig :=
  entries.foldl (fun c e => c.set e.field e.value) config

/-- The fields of the entries have their values, and all others those of `base`. -/
structure Replaces (config base : ScanConfig) (entries : List Entry) : Prop where
  given : ∀ e ∈ entries, config.get e.field = e.value
  kept : ∀ f, f ∉ entries.map Entry.field → config.get f = base.get f

theorem replaces_setAll (h : (entries.map Entry.field).Nodup) (base : ScanConfig) :
    (base.setAll entries).Replaces base entries := by
  induction entries generalizing base with
  | nil => exact ⟨List.forall_mem_nil _, fun _ _ => rfl⟩
  | cons e entries ih =>
      rw [List.map_cons, List.nodup_cons] at h
      obtain ⟨hgiven, hkept⟩ := ih h.2 (base.set e.field e.value)
      refine ⟨List.forall_mem_cons.mpr ⟨?_, hgiven⟩, fun f hf => ?_⟩
      · exact (hkept e.field h.1).trans (get_set_self base e.field e.value)
      · rw [List.map_cons, List.mem_cons, not_or] at hf
        exact (hkept f hf.2).trans (get_set_of_ne hf.1 e.value)

/-- No two configurations have the same fields replaced by the same values. -/
theorem Replaces.unique (h : config.Replaces base entries) (hother : other.Replaces base entries) : config = other := by
  refine ext_get fun f => ?_
  by_cases hf : f ∈ entries.map Entry.field
  · obtain ⟨e, he, rfl⟩ := List.mem_map.mp hf
    rw [h.given e he, hother.given e he]
  · rw [h.kept f hf, hother.kept f hf]

/-! ## Configurations as JSON -/

theorem exists_json? (hroots : ∀ root ∈ config.sourceRoots, root.IsText) (hbase : config.destinationBase.IsText) :
    ∃ value, config.json? = some value := by
  have hfields : ∀ f ∈ Field.all, ∃ member, (f.json? (config.get f)).map (f.name, ·) = some member := by
    intro f _
    suffices h : ∃ j, f.json? (config.get f) = some j by
      obtain ⟨j, hj⟩ := h
      exact ⟨_, Option.map_eq_some_iff.mpr ⟨j, hj, rfl⟩⟩
    cases f with
    | sourceRoots =>
        have hitems : ∀ root ∈ config.sourceRoots, ∃ j, root.text?.map Json.string = some j := by
          intro root hroot
          obtain ⟨text, htext⟩ := Path.exists_text?_iff.mpr (hroots root hroot)
          exact ⟨_, Option.map_eq_some_iff.mpr ⟨text, htext, rfl⟩⟩
        obtain ⟨items, hitems⟩ := exists_mapM_iff.mpr hitems
        exact ⟨_, Option.map_eq_some_iff.mpr ⟨items, hitems, rfl⟩⟩
    | destinationBase =>
        obtain ⟨text, htext⟩ := Path.exists_text?_iff.mpr hbase
        exact ⟨_, Option.map_eq_some_iff.mpr ⟨text, htext, rfl⟩⟩
    | builderNamespace | pattern | marker | markerMatch | onReadError => exact ⟨_, rfl⟩
  obtain ⟨members, hmembers⟩ := exists_mapM_iff.mpr hfields
  exact ⟨.object members, by rw [json?, hmembers]; rfl⟩

/-- What is written for a configuration is an object with all fields in order. -/
theorem entries_of_json? {value : Json} (h : config.json? = some value) :
    ∃ es : List Entry, value = .object (es.map Entry.member) ∧ es.map Entry.field = Field.all ∧
      ∀ e ∈ es, config.get e.field = e.value := by
  rw [json?] at h
  simp only [Option.bind_eq_bind, Option.bind_eq_some_iff, Option.pure_def, Option.some.injEq] at h
  obtain ⟨members, hmembers, rfl⟩ := h
  suffices hes : ∃ es : List Entry, members = es.map Entry.member ∧ es.map Entry.field = Field.all ∧
      ∀ e ∈ es, config.get e.field = e.value by
    obtain ⟨es, rfl, hes⟩ := hes
    exact ⟨es, rfl, hes⟩
  generalize Field.all = fields at hmembers ⊢
  induction fields generalizing members with
  | nil =>
      rw [List.mapM_nil] at hmembers
      cases hmembers
      exact ⟨[], rfl, rfl, List.forall_mem_nil _⟩
  | cons f fields ih =>
      rw [List.mapM_cons] at hmembers
      simp only [Option.bind_eq_bind, Option.bind_eq_some_iff, Option.map_eq_some_iff, Option.pure_def,
        Option.some.injEq] at hmembers
      obtain ⟨_, ⟨j, hj, rfl⟩, rest, hrest, rfl⟩ := hmembers
      obtain ⟨es, rfl, hfields, hvalues⟩ := ih rest hrest
      refine ⟨⟨f, config.get f, f.name, j, f.named_name, Field.stands_of_json? hj⟩ :: es, rfl, ?_, ?_⟩
      · rw [List.map_cons, hfields]
      · exact List.forall_mem_cons.mpr ⟨rfl, hvalues⟩

/-- What is written for a configuration is an object with a member for each field, and the members replace all fields of
the default. -/
theorem exists_entries {value : Json} (h : config.json? = some value) :
    ∃ es : List Entry, value = .object (es.map Entry.member) ∧ (es.map Entry.field).Nodup ∧
      config = ScanConfig.default.setAll es := by
  obtain ⟨es, hvalue, hfields, hvalues⟩ := entries_of_json? h
  have hnodup : (es.map Entry.field).Nodup := by
    rw [hfields]
    decide
  have hall : config.Replaces .default es := ⟨hvalues, fun f hf => absurd (hfields ▸ f.mem_all) hf⟩
  exact ⟨es, hvalue, hnodup, hall.unique (replaces_setAll hnodup .default)⟩

end ScanConfig

end BuilderAudit
