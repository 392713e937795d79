import BuilderAudit.Config.FromJson
import BuilderAudit.Proofs.Config.Field
import BuilderAudit.Proofs.Json.Grammar

/-!
# Configurations read from JSON

Every text of a value of the right type is read as that value, whatever follows it, so the members of an object are read
one after the other, each into its field. The key of a member is judged before anything behind it is read.

* `Takes` : a reader takes every text of a kind for the same value;
* `takes_value`, `takes_member` : values of fields and members;
* `textsLoop`, `membersLoop`, `valuesLoop` : the three loops over elements;
* `takes_object`, `takes_array` : whole texts;
* `UpToKey` : texts that are right up to a key, which decides about them (`config_upToKey`);
* `ScanConfig.ofJson?_of_json?` : what is written for a configuration is read as that configuration.
-/

namespace BuilderAudit.Config.FromJson

open Json (skipSpace skipSpace_append skipSpace_of_head Blank Padded Begun Listed Quoted Keyed Text StartsElement
  ListLoop next? quoted_starts keyed_starts text_starts)

variable {α : Type} {blanks t cs rest rest' : List Char} {given : List Field} {config : ScanConfig}

/-- The reader takes every text of a kind for the same value. It passes the blanks in front and leaves what follows. -/
def Takes (read : Reader FormatError α) (kind : List Char → Prop) (a : α) : Prop :=
  ∀ ⦃blanks t : List Char⦄, Blank blanks → kind t → ∀ rest, read (blanks ++ (t ++ rest)) = .ok (a, rest)

theorem Takes.of_text {read : Reader FormatError α} {kind : List Char → Prop} {a : α} (h : Takes read kind a)
    (ht : kind t) (rest : List Char) : read (t ++ rest) = .ok (a, rest) := h .nil ht rest

/-- An element of a list is taken with the blanks in front of it, but not with those behind it. -/
theorem Takes.padded {read : Reader FormatError α} {kind : List Char → Prop} {a : α} (h : Takes read kind a)
    (ht : Padded kind t) : ∃ after, Blank after ∧ ∀ rest, read (t ++ rest) = .ok (a, after ++ rest) := by
  obtain @⟨before, inner, after, hbefore, hinner, hafter⟩ := ht
  refine ⟨after, hafter, fun rest => ?_⟩
  rw [List.append_assoc, List.append_assoc]
  exact h hbefore hinner (after ++ rest)

/-! ## Strings -/

theorem takes_text (s : String) : Takes text (Quoted s) s := by
  intro blanks t hblanks ht rest
  obtain ⟨h⟩ := ht
  rw [text, skipSpace_append hblanks, List.append_assoc, List.cons_append, skipSpace_of_head (by decide)]
  simp only [List.singleton_append, Json.string?_stringText h, String.ofList_toList]

theorem textsFrom_next {done : List String} {s : String} (h : text cs = .ok (s, rest)) :
    (next? ']' rest = some (false, rest') → textsFrom done cs = textsFrom (s :: done) rest') ∧
      (next? ']' rest = some (true, rest') → textsFrom done cs = .ok ((s :: done).reverse, rest')) := by
  fun_cases textsFrom done cs <;> grind

theorem textsLoop : ListLoop ']' Quoted textsFrom (fun done s => s :: done)
    (fun done rest => .ok (done.reverse, rest)) fun _ _ => True where
  ne_comma := by decide
  notSpace := by decide
  starts _ _ := quoted_starts (by decide)
  fit_tail _ _ _ _ := trivial
  reads done s _ _ t ht := by
    obtain ⟨after, hafter, hread⟩ := (takes_text s).padded ht
    exact ⟨after, hafter, fun rest rest' => textsFrom_next (hread rest)⟩

theorem takes_texts (ss : List String) : Takes texts (Text (.array (ss.map .string))) ss := by
  intro blanks t hblanks ht rest
  obtain ⟨inner, rfl, hinner⟩ := ht
  rw [Json.itemTexts_eq_map, List.map_map] at hinner
  rw [texts, skipSpace_append hblanks, List.cons_append, skipSpace_of_head (by decide)]
  by_cases hne : ss = []
  · subst hne
    simp only [Json.skipSpace_listed_nil (by decide) hinner]
  · obtain ⟨⟨c, more, hstart, -, hc⟩, hlist⟩ := textsLoop.listed (s := []) trivial hne hinner rest
    rw [List.foldl_flip_cons_eq_append', List.append_nil, List.reverse_reverse, hstart] at hlist
    simp only [hstart]
    split
    · next heq => exact absurd (List.cons.inj heq).1 hc
    · exact hlist

/-! ## Enumerations -/

theorem payload_null {value : α} {before middle after rest : List Char} (hbefore : Blank before)
    (hmiddle : Blank middle) (hafter : Blank after) :
    payload value (before ++ ':' :: (middle ++ ("null".toList ++ (after ++ '}' :: rest)))) = .ok (value, rest) := by
  have hnull : Json.word? "null".toList ("null".toList ++ (after ++ '}' :: rest)) = some (after ++ '}' :: rest) := rfl
  rw [payload, skipSpace_append hbefore, skipSpace_of_head (by decide)]
  have hskip : skipSpace ("null".toList ++ (after ++ '}' :: rest)) = "null".toList ++ (after ++ '}' :: rest) :=
    skipSpace_of_head (c := 'n') (by decide) _
  simp only [skipSpace_append hmiddle, hskip, hnull, skipSpace_append hafter, skipSpace_of_head (c := '}') (by decide)]

/-- An enumeration value is taken from its name and from an object with the name for its only key. -/
theorem takes_enumeration {ofName? : String → Option α} {name : String} {value : α} (h : ofName? name = some value)
    {j : Json} (hj : j.Names name) : Takes (enumeration ofName?) (Text j) value := by
  have hvariant : variant ofName? name = .ok value := by rw [variant, h]
  intro blanks t hblanks ht rest
  obtain rfl | rfl := hj
  · obtain ⟨c, more, hc, hspace, -⟩ := text_starts ht
    have htext := (takes_text name).of_text ht rest
    obtain ⟨h⟩ := ht
    rw [enumeration, skipSpace_append hblanks, List.append_assoc, List.cons_append, skipSpace_of_head (by decide)]
    rw [List.append_assoc, List.cons_append] at htext
    simp only [htext, hvariant, bind, Except.bind, pure, Except.pure]
  · obtain ⟨inner, rfl, hinner⟩ := ht
    obtain ⟨before, u, after, hbefore, hu, hafter, rfl⟩ := Json.of_listed_singleton hinner
    obtain ⟨hk, hcolon, hnull, rfl⟩ := hu
    rw [enumeration, skipSpace_append hblanks, List.cons_append, skipSpace_of_head (by decide)]
    simp only [List.append_assoc, List.cons_append, List.nil_append, takes_text name hbefore hk, hvariant, bind,
      Except.bind]
    exact payload_null hcolon hnull hafter

/-! ## Values of fields -/

theorem takes_value {f : Field} {j : Json} {v : f.Value} (h : f.Stands j v) : Takes (value f) (Text j) v := by
  intro blanks t hblanks ht rest
  cases f with
  | sourceRoots =>
      obtain ⟨texts, rfl, rfl⟩ := h
      simp only [value, takes_texts texts hblanks ht, bind, Except.bind, pure, Except.pure]
  | destinationBase =>
      obtain ⟨s, rfl, rfl⟩ := h
      simp only [value, takes_text s hblanks ht, bind, Except.bind, pure, Except.pure]
  | builderNamespace | pattern | marker =>
      obtain rfl := h
      exact takes_text _ hblanks ht rest
  | markerMatch => exact takes_enumeration (MarkerMatch.ofName?_name v) h hblanks ht rest
  | onReadError => exact takes_enumeration (ReadErrorPolicy.ofName?_name v) h hblanks ht rest

/-! ## Members -/

section Keys

variable {name k : String} {f : Field}

theorem key_eq {name : String} {k : List Char} (hblanks : Blank blanks) (hk : Quoted name k) (rest : List Char) :
    key given (blanks ++ (k ++ rest)) =
      match Field.ofKey? name with
      | none => .error (.unknownField name)
      | some f => if given.contains f then .error (.duplicateField f.name) else .ok (f, rest) := by
  have htext := (takes_text name).of_text hk rest
  obtain ⟨h⟩ := hk
  rw [List.append_assoc, List.cons_append] at htext
  rw [key, skipSpace_append hblanks, List.append_assoc, List.cons_append, skipSpace_of_head (by decide)]
  cases hfound : Field.ofKey? name with
  | none => simp only [htext, hfound, bind, Except.bind]
  | some f => simp only [htext, hfound, bind, Except.bind]

theorem takes_key (hname : f.Named name) (h : f ∉ given) : Takes (key given) (Quoted name) f := by
  intro blanks t hblanks ht rest
  simp only [key_eq hblanks ht, Field.ofKey?_eq_some_iff.mpr hname, List.contains_eq_mem, h, decide_false,
    Bool.false_eq_true, if_false]

theorem key_unknown (hblanks : Blank blanks) (ht : Quoted name t) (hname : ∀ f : Field, ¬ f.Named name)
    (rest : List Char) : key given (blanks ++ (t ++ rest)) = .error (.unknownField name) := by
  simp only [key_eq hblanks ht, Field.ofKey?_eq_none_iff.mpr hname]

theorem key_duplicate (hblanks : Blank blanks) (ht : Quoted name t) (hname : f.Named name) (h : f ∈ given)
    (rest : List Char) : key given (blanks ++ (t ++ rest)) = .error (.duplicateField f.name) := by
  simp only [key_eq hblanks ht, Field.ofKey?_eq_some_iff.mpr hname, List.contains_eq_mem, h, decide_true, if_true]

end Keys

/-- The texts of the member that an entry gives. -/
def memberKind (e : Entry) : List Char → Prop := Keyed e.key (Text e.json)

theorem takes_member (e : Entry) (h : e.field ∉ given) (config : ScanConfig) :
    Takes (member given config) (memberKind e) (e.field, config.set e.field e.value) := by
  intro blanks t hblanks ht rest
  obtain @⟨k, before, after, v, hk, hbefore, hafter, hv⟩ := ht
  have hkey := takes_key e.named h hblanks hk (before ++ ':' :: (after ++ (v ++ rest)))
  have hvalue := takes_value e.stands hafter hv rest
  rw [member]
  simp only [List.append_assoc, List.cons_append, hkey, bind, Except.bind, skipSpace_append hbefore,
    skipSpace_of_head (c := ':') (by decide), hvalue, pure, Except.pure]

theorem membersFrom_error {e : FormatError} (h : member given config cs = .error e) :
    membersFrom given config cs = .error e := by
  fun_cases membersFrom given config cs <;> grind

theorem membersFrom_next {f : Field} {config' : ScanConfig} (h : member given config cs = .ok ((f, config'), rest)) :
    (next? '}' rest = some (false, rest') → membersFrom given config cs = membersFrom (f :: given) config' rest') ∧
      (next? '}' rest = some (true, rest') → membersFrom given config cs = .ok (config', rest')) := by
  fun_cases membersFrom given config cs <;> grind

theorem membersLoop : ListLoop '}' memberKind (fun s cs => membersFrom s.1 s.2 cs)
    (fun s e => (e.field :: s.1, s.2.set e.field e.value)) (fun s rest => .ok (s.2, rest))
    fun s es => (es.map Entry.field).Nodup ∧ ∀ e ∈ es, e.field ∉ s.1 where
  ne_comma := by decide
  notSpace := by decide
  starts _ _ := keyed_starts (by decide)
  fit_tail s e es h := by
    rw [List.map_cons, List.nodup_cons, List.forall_mem_cons] at h
    refine ⟨h.1.2, fun e' he' => ?_⟩
    rw [List.mem_cons, not_or]
    exact ⟨fun heq => h.1.1 (List.mem_map.mpr ⟨e', he', heq⟩), h.2.2 e' he'⟩
  reads s e es h t ht := by
    obtain ⟨after, hafter, hread⟩ := (takes_member e (h.2 e List.mem_cons_self) s.2).padded ht
    exact ⟨after, hafter, fun rest rest' => membersFrom_next (hread rest)⟩

theorem foldl_membersLoop (es : List Entry) (given : List Field) (config : ScanConfig) :
    es.foldl (fun s e => (e.field :: s.1, s.2.set e.field e.value)) (given, config) =
      ((es.map Entry.field).reverse ++ given, config.setAll es) := by
  induction es generalizing given config with
  | nil => rfl
  | cons e es ih =>
      rw [List.foldl_cons, ih, List.map_cons, List.reverse_cons, List.append_assoc]
      rfl

/-! ## Values in order -/

theorem valuesFrom_next {f : Field} {fields : List Field} {v : f.Value} (h : value f cs = .ok (v, rest)) :
    (next? ']' rest = some (false, rest') →
    valuesFrom config (f :: fields) cs = valuesFrom (config.set f v) fields rest') ∧
      (next? ']' rest = some (true, rest') → valuesFrom config (f :: fields) cs = .ok (config.set f v, rest')) := by
  rw [valuesFrom, h]
  constructor
  · intro hnext
    simp only [hnext, bind, Except.bind]
  · intro hnext
    simp only [hnext, bind, Except.bind, pure, Except.pure]

theorem valuesLoop : ListLoop ']' (fun e : Entry => Text e.json) (fun s cs => valuesFrom s.1 s.2 cs)
    (fun s e => (s.1.set e.field e.value, s.2.tail)) (fun s rest => .ok (s.1, rest))
    fun s es => es.map Entry.field <+: s.2 where
  ne_comma := by decide
  notSpace := by decide
  starts _ _ := text_starts
  fit_tail s e es h := by
    obtain ⟨fields, hfields⟩ := h
    rw [← hfields]
    exact List.prefix_append _ _
  reads s e es h t ht := by
    obtain ⟨fields, hfields⟩ := h
    obtain ⟨after, hafter, hread⟩ := (takes_value e.stands).padded ht
    refine ⟨after, hafter, fun rest rest' => ?_⟩
    rw [← hfields]
    exact valuesFrom_next (hread rest)

theorem foldl_valuesLoop (es : List Entry) (fields : List Field) (config : ScanConfig) :
    (es.foldl (fun s e => (s.1.set e.field e.value, s.2.tail)) (config, fields)).1 = config.setAll es := by
  induction es generalizing fields config with
  | nil => rfl
  | cons e es ih => exact ih fields.tail _

/-! ## Whole configurations -/

theorem config_members (hblanks : Blank blanks) (h : StartsElement '}' (skipSpace cs)) :
    FromJson.config (blanks ++ '{' :: cs) = membersFrom [] ScanConfig.default (skipSpace cs) := by
  obtain ⟨c, more, hstart, -, hc⟩ := h
  rw [FromJson.config, skipSpace_append hblanks, skipSpace_of_head (by decide)]
  simp only [hstart]
  split
  · next heq => exact absurd (List.cons.inj heq).1 hc
  · rfl

theorem config_values (hblanks : Blank blanks) (h : StartsElement ']' (skipSpace cs)) :
    FromJson.config (blanks ++ '[' :: cs) = valuesFrom ScanConfig.default Field.all (skipSpace cs) := by
  obtain ⟨c, more, hstart, -, hc⟩ := h
  rw [FromJson.config, skipSpace_append hblanks, skipSpace_of_head (by decide)]
  simp only [hstart]
  split
  · next heq => exact absurd (List.cons.inj heq).1 hc
  · rfl

variable {es : List Entry}

theorem takes_object (h : (es.map Entry.field).Nodup) :
    Takes FromJson.config (Text (.object (es.map Entry.member))) (ScanConfig.default.setAll es) := by
  intro blanks t hblanks ht rest
  obtain ⟨inner, rfl, hinner⟩ := ht
  rw [Json.memberTexts_eq_map, List.map_map] at hinner
  by_cases hne : es = []
  · subst hne
    rw [FromJson.config, skipSpace_append hblanks, List.cons_append, skipSpace_of_head (by decide)]
    simp only [Json.skipSpace_listed_nil (by decide) hinner]
    rfl
  · have hfit : (es.map Entry.field).Nodup ∧ ∀ e ∈ es, e.field ∉ ([] : List Field) := ⟨h, fun _ _ => List.not_mem_nil⟩
    obtain ⟨hstart, hlist⟩ := membersLoop.listed (s := ([], ScanConfig.default)) hfit hne hinner rest
    rw [foldl_membersLoop] at hlist
    exact (config_members hblanks hstart).trans hlist

theorem takes_array (h : es.map Entry.field <+: Field.all) :
    Takes FromJson.config (Text (.array (es.map Entry.json))) (ScanConfig.default.setAll es) := by
  intro blanks t hblanks ht rest
  obtain ⟨inner, rfl, hinner⟩ := ht
  rw [Json.itemTexts_eq_map, List.map_map] at hinner
  by_cases hne : es = []
  · subst hne
    rw [FromJson.config, skipSpace_append hblanks, List.cons_append, skipSpace_of_head (by decide)]
    simp only [Json.skipSpace_listed_nil (by decide) hinner]
    rfl
  · obtain ⟨hstart, hlist⟩ := valuesLoop.listed (s := (ScanConfig.default, Field.all)) h hne hinner rest
    rw [foldl_valuesLoop] at hlist
    exact (config_values hblanks hstart).trans hlist

/-- A text that is right up to a key: an object that gives some entries, and another key, whatever follows it. -/
inductive UpToKey (es : List Entry) (name : String) : List Char → Prop
  | mk {before front middle k : List Char} (hbefore : Blank before) (hfront : Begun (es.map memberKind) front)
      (hmiddle : Blank middle) (hk : Quoted name k) (rest : List Char) :
      UpToKey es name (before ++ '{' :: (front ++ (middle ++ (k ++ rest))))

/-- A key that is refused is what the text is refused for. -/
theorem config_upToKey {name : String} {e : FormatError} (h : (es.map Entry.field).Nodup) (ht : UpToKey es name t)
    (hfault : ∀ given : List Field, (∀ f, f ∈ given ↔ f ∈ es.map Entry.field) → ∀ blanks k rest, Blank blanks →
      Quoted name k → key given (blanks ++ (k ++ rest)) = .error e) :
    FromJson.config t = .error e := by
  obtain @⟨before, front, middle, k, hbefore, hfront, hmiddle, hk, rest⟩ := ht
  have hstart : StartsElement '}' (k ++ rest) := by
    obtain ⟨c, more, rfl, hspace, hc⟩ : StartsElement '}' k := quoted_starts (by decide) hk
    exact ⟨c, _, rfl, hspace, hc⟩
  obtain ⟨front', middle', hfront', hmiddle', hskip, hstarts⟩ :=
    Json.skipSpace_begun membersLoop.starts hfront hmiddle hstart
  have hfit : ((es ++ []).map Entry.field).Nodup ∧ ∀ e ∈ es ++ [], e.field ∉ ([] : List Field) := by simpa using h
  obtain ⟨blanks, hblanks, hbegun⟩ := membersLoop.begun (s := ([], ScanConfig.default)) hfit hfront' hmiddle' hstart
  rw [foldl_membersLoop] at hbegun
  have hmember : ∀ config, member ((es.map Entry.field).reverse ++ []) config (blanks ++ (k ++ rest)) = .error e := by
    intro config
    rw [member, hfault _ (by simp) blanks k rest hblanks hk]
    rfl
  rw [config_members hbefore (by rwa [hskip]), hskip]
  exact hbegun.trans (membersFrom_error (hmember _))

end BuilderAudit.Config.FromJson

namespace BuilderAudit.ScanConfig

open Config.FromJson
open Json (Padded Text)

theorem ofJson?_of_takes {kind : List Char → Prop} {config : ScanConfig} (h : Takes Config.FromJson.config kind config)
    {t : List Char} (ht : Padded kind t) : ofJson? t = .ok config := by
  obtain ⟨after, hafter, hread⟩ := h.padded ht
  have hrest := hread []
  rw [List.append_nil, List.append_nil] at hrest
  have hskip : Json.skipSpace after = [] := by
    rw [← List.append_nil after, Json.skipSpace_append hafter]
    rfl
  simp only [ofJson?, hrest, bind, Except.bind, hskip, List.isEmpty_nil, if_true, pure, Except.pure]

section Faults

variable {es : List Entry} {name : String} {t : List Char} (hnodup : (es.map Entry.field).Nodup)
  (ht : UpToKey es name t)
include hnodup ht

theorem ofJson?_unknown (hname : ∀ f : Field, ¬ f.Named name) : ofJson? t = .error (.unknownField name) := by
  rw [ofJson?, config_upToKey hnodup ht fun _ _ _ _ rest hblanks hk => key_unknown hblanks hk hname rest]
  rfl

theorem ofJson?_duplicate {f : Field} (hname : f.Named name) (hf : f ∈ es.map Entry.field) :
    ofJson? t = .error (.duplicateField f.name) := by
  rw [ofJson?, config_upToKey hnodup ht fun _ hgiven _ _ rest hblanks hk =>
    key_duplicate hblanks hk hname ((hgiven f).mpr hf) rest]
  rfl

end Faults

/-- A configuration is read from what is written for it. -/
theorem ofJson?_of_json? {config : ScanConfig} {value : Json} {t : List Char} (h : config.json? = some value)
    (ht : t = value.compact ∨ t = value.pretty 0) : ofJson? t = .ok config := by
  obtain ⟨es, rfl, hnodup, hconfig⟩ := exists_entries h
  have htext : Text (.object (es.map Entry.member)) t := by
    rcases ht with rfl | rfl
    · exact Json.text_compact _
    · exact Json.text_pretty _ 0
  rw [hconfig]
  exact ofJson?_of_takes (takes_object hnodup) (.of htext)

end BuilderAudit.ScanConfig
