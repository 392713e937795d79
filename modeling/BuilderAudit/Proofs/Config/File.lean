import BuilderAudit.Config.File
import BuilderAudit.Proofs.Config.FromJson
import BuilderAudit.Proofs.FileTree.Written
import BuilderAudit.Proofs.Traversal

/-!
# Configurations in JSON files

What is loaded from a JSON file depends on the members that its text gives and not on how they are written, and a
configuration that is written as JSON is loaded again.

* `ScanConfig.load_written` : what is written is loaded;
* `ScanConfig.load_object`, `ScanConfig.load_array` : what is loaded from the text of an object or an array;
* `ScanConfig.load_json` : what is loaded from each text.
-/

namespace BuilderAudit

/-- The extension of a path is a word in lower or upper case, or partly in both. -/
def Path.HasExtension (p : Path) (word : String) : Prop :=
  ∃ cs : List Char, p.extension? = some (Utf8.encode cs) ∧ cs.map Char.toLower = word.toList

/-- The path leads to a file that can be read and holds a text. -/
def FileTree.Holds (tree : FileTree) (p : Path) (text : List Char) : Prop := tree.read p = .ok (Utf8.encode text)

namespace ScanConfig

open Config.FromJson (UpToKey takes_object takes_array)
open Json (Padded Text)

variable {config : ScanConfig} {tree : FileTree} {path : Path} {text : List Char}

/-! ## Files -/

theorem extension_eq {p : Path} {word : String} (h : p.HasExtension word) : p.extension = word := by
  obtain ⟨cs, hcs, hlower⟩ := h
  rw [Path.extension, hcs, Option.bind_some, Utf8.decode?_eq_some_iff.mpr rfl, Option.getD_some, hlower,
    String.ofList_toList]

/-- What is loaded from a file is what its text says in the format that its extension names. -/
theorem load_eq_of_format {word : String} {format : ConfigFormat} (hword : ConfigFormat.ofExtension? word = some format)
    (hpath : path.HasExtension word) (h : tree.Holds path text) :
    load tree path = (ofText? text format).mapError (.unparsable path) := by
  have hread : tree.readText path = .ok text := by
    rw [FileTree.readText, h]
    simp only [bind, Except.bind, Utf8.decode?_eq_some_iff.mpr rfl, pure, Except.pure]
  rw [load, hread]
  simp only [ofContent, extension_eq hpath, hword]
  cases ofText? text format <;> rfl

/-- What is loaded from a JSON file is what its text says. -/
theorem load_eq (hpath : path.HasExtension "json") (h : tree.Holds path text) :
    load tree path = (ofJson? text).mapError (.unparsable path) :=
  load_eq_of_format (show ConfigFormat.ofExtension? "json" = some .json by decide) hpath h

/-- A file that holds a configuration as JSON is loaded as that configuration. -/
theorem load_of_json? {value : Json} (hvalue : config.json? = some value)
    (htext : text = value.compact ∨ text = value.pretty 0) (hpath : path.HasExtension "json")
    (h : tree.Holds path text) : load tree path = .ok config := by
  rw [load_eq hpath h, ofJson?_of_json? hvalue htext]
  rfl

/-- **A configuration that is written to a JSON file, on one line or on several, is loaded from it.** -/
theorem load_written (config : ScanConfig) (hroots : ∀ root ∈ config.sourceRoots, root.IsText)
    (hbase : config.destinationBase.IsText) :
    ∃ value, config.json? = some value ∧ ∀ text, text = value.compact ∨ text = value.pretty 0 →
      ∀ path : Path, path.HasExtension "json" →
        (∀ tree : FileTree, tree.Holds path text → load tree path = .ok config) ∧
        ∀ tree after : FileTree, tree.WellFormed →
          (∀ old mode, tree.lookUp path = .ok (.file old mode) → mode.read = true) →
          tree.write .user path (Utf8.encode text) = .ok after → load after path = .ok config := by
  obtain ⟨value, hvalue⟩ := exists_json? hroots hbase
  refine ⟨value, hvalue, fun text htext path hpath => ?_⟩
  exact ⟨fun _ hholds => load_of_json? hvalue htext hpath hholds, fun _ _ ht hold hwrite =>
    load_of_json? hvalue htext hpath (FileTree.read_write ht hold hwrite)⟩

/-- A configuration with quotes, a backslash, control characters and a character beyond the first 65536 in its texts. -/
def sampleWritten : ScanConfig where
  sourceRoots := [.ofString "a\"b\\c", .ofString ""]
  destinationBase := .ofString "é\n"
  builderNamespace := "\x01"
  pattern := ".*"
  marker := "@\t😀"
  markerMatch := .legacy
  onReadError := .skip

theorem sampleWritten_load :
    (∀ root ∈ sampleWritten.sourceRoots, root.IsText) ∧ sampleWritten.destinationBase.IsText ∧
      ∃ value after, sampleWritten.json? = some value ∧
        FileTree.write ⟨Node.emptyDirectory, [], false⟩ .user (.ofString "c.Json") (Utf8.encode (value.pretty 0)) =
          .ok after ∧
        load after (.ofString "c.Json") = .ok sampleWritten := by
  have hroots : ∀ root ∈ sampleWritten.sourceRoots, root.IsText :=
    List.forall_mem_cons.mpr ⟨⟨_, rfl⟩, List.forall_mem_singleton.mpr ⟨_, rfl⟩⟩
  have hempty : FileTree.WellFormed ⟨Node.emptyDirectory, [], false⟩ :=
    ⟨.directory List.nodup_nil (by simp) (by simp), fun _ => ⟨_, _, rfl⟩⟩
  have hnew : ∀ old mode, FileTree.lookUp ⟨Node.emptyDirectory, [], false⟩ (.ofString "c.Json") = .ok (.file old mode) →
      mode.read = true := by
    intro old mode h
    rw [show FileTree.lookUp ⟨Node.emptyDirectory, [], false⟩ (.ofString "c.Json") = .error .notFound from rfl] at h
    cases h
  obtain ⟨value, hvalue, hload⟩ := load_written sampleWritten hroots ⟨_, rfl⟩
  obtain ⟨-, hwritten⟩ := hload _ (Or.inr rfl) (.ofString "c.Json") ⟨"Json".toList, by cbv, by decide⟩
  exact ⟨hroots, ⟨_, rfl⟩, value, _, hvalue, rfl, hwritten _ _ hempty hnew rfl⟩

/-! ## Texts of many kinds -/

section Entries

variable {es : List Entry} (hpath : path.HasExtension "json") (hholds : tree.Holds path text)
include hpath hholds

/-- An object is loaded as the default with its members set. -/
theorem load_object (hnodup : (es.map Entry.field).Nodup) (htext : Padded (Text (.object (es.map Entry.member))) text) :
    load tree path = .ok (ScanConfig.default.setAll es) := by
  rw [load_eq hpath hholds, ofJson?_of_takes (takes_object hnodup) htext]
  rfl

/-- An array is loaded as the default with the first fields set. -/
theorem load_array {k : Nat} (hfields : es.map Entry.field = Field.all.take k)
    (htext : Padded (Text (.array (es.map Entry.json))) text) :
    load tree path = .ok (ScanConfig.default.setAll es) := by
  rw [load_eq hpath hholds, ofJson?_of_takes (takes_array (hfields ▸ List.take_prefix k Field.all)) htext]
  rfl

end Entries

/-- **What is loaded from a JSON file.** An object with a key for each of some fields, and an array of values for the
first fields, both replace these fields and nothing else. The next key is refused if it names no field or a field once
more, whatever follows it. -/
theorem load_json {es : List Entry} (hpath : path.HasExtension "json") (hholds : tree.Holds path text)
    (hnodup : (es.map Entry.field).Nodup) :
    (Padded (Text (.object (es.map Entry.member))) text →
        ∃ config, load tree path = .ok config ∧ config.Replaces .default es) ∧
      (∀ k, es.map Entry.field = Field.all.take k → Padded (Text (.array (es.map Entry.json))) text →
        (∃ config, load tree path = .ok config ∧ config.Replaces .default es) ∧
          ∀ (tree' : FileTree) (path' : Path) (text' : List Char), path'.HasExtension "json" → tree'.Holds path' text' →
            Padded (Text (.object (es.map Entry.member))) text' → load tree' path' = load tree path) ∧
      (∀ name, UpToKey es name text →
        ((∀ f : Field, ¬ f.Named name) → load tree path = .error (.unparsable path (.unknownField name))) ∧
          ∀ f ∈ es.map Entry.field, f.Named name →
            load tree path = .error (.unparsable path (.duplicateField f.name))) := by
  refine ⟨fun htext => ⟨_, load_object hpath hholds hnodup htext, replaces_setAll hnodup .default⟩, ?_,
    fun name htext => ?_⟩
  · intro k hk htext
    have hload := load_array hpath hholds hk htext
    refine ⟨⟨_, hload, replaces_setAll hnodup .default⟩, fun tree' path' text' hpath' hholds' htext' => ?_⟩
    rw [load_object hpath' hholds' hnodup htext', hload]
  · constructor
    · intro hname
      rw [load_eq hpath hholds, ofJson?_unknown hnodup htext hname]
      rfl
    · intro f hf hname
      rw [load_eq hpath hholds, ofJson?_duplicate hnodup htext hname hf]
      rfl

def sampleEntry : Entry :=
  ⟨.sourceRoots, [.ofString "a\"b"], "sourceRoots", .array [.string "a\"b"], Or.inr rfl, ["a\"b"], rfl, rfl⟩

/-- A text that gives the roots. -/
def sampleOnce : List Char := "\n\x7b\"sourceRoots\":[\"a\\\"b\"]\x7d".toList

/-- A text that gives the roots once more, and breaks off there. -/
def sampleTwice : List Char := "\x7b\"sourceRoots\":[\"a\\\"b\"], \"source_roots\"]".toList

/-- A tree with both texts in the files `a.json` and `b.JSON`. -/
def sampleTexts : FileTree where
  root := .directory .directory [((Path.ofString "a.json").bytes, .file (Utf8.encode sampleOnce) .file),
    ((Path.ofString "b.JSON").bytes, .file (Utf8.encode sampleTwice) .file)]
  cwd := []
  cwdRemoved := false

theorem sampleOnce_padded : Padded (Text (.object ([sampleEntry].map Entry.member))) sampleOnce := by
  have hblank : Json.Blank ['\n'] := List.forall_mem_singleton.mpr rfl
  have htext := Padded.mk hblank (Json.text_compact (.object ([sampleEntry].map Entry.member))) .nil
  rwa [show ['\n'] ++ (Json.object ([sampleEntry].map Entry.member)).compact ++ [] = sampleOnce by cbv] at htext

theorem sampleTwice_upToKey : UpToKey [sampleEntry] "source_roots" sampleTwice := by
  have hfront : Json.Begun ([sampleEntry].map Config.FromJson.memberKind)
      (Json.compactMember sampleEntry.member ++ [',']) :=
    .cons (.of (Json.keyed_compactMember (m := sampleEntry.member) (Json.text_compact _))) .nil
  have hblank : Json.Blank [' '] := List.forall_mem_singleton.mpr rfl
  have htext := UpToKey.mk .nil hfront hblank (Json.quoted_text "source_roots") [']']
  rwa [show [] ++ '{' :: (Json.compactMember sampleEntry.member ++ [','] ++
    ([' '] ++ (Json.quoted "source_roots".toList ++ [']']))) = sampleTwice by cbv] at htext

theorem sampleTexts_load :
    sampleTexts.Holds (.ofString "a.json") sampleOnce ∧ sampleTexts.Holds (.ofString "b.JSON") sampleTwice ∧
      (∃ config, load sampleTexts (.ofString "a.json") = .ok config ∧ config.Replaces .default [sampleEntry]) ∧
      load sampleTexts (.ofString "b.JSON") =
        .error (.unparsable (.ofString "b.JSON") (.duplicateField "source_roots")) := by
  have honce : sampleTexts.Holds (.ofString "a.json") sampleOnce := by
    unfold FileTree.Holds
    cbv
  have htwice : sampleTexts.Holds (.ofString "b.JSON") sampleTwice := by
    unfold FileTree.Holds
    cbv
  have hnodup : ([sampleEntry].map Entry.field).Nodup := List.nodup_singleton _
  obtain ⟨hobject, -, -⟩ := load_json ⟨"json".toList, by cbv, by decide⟩ honce hnodup
  obtain ⟨-, -, hfault⟩ := load_json ⟨"JSON".toList, by cbv, by decide⟩ htwice hnodup
  exact ⟨honce, htwice, hobject sampleOnce_padded,
    (hfault _ sampleTwice_upToKey).2 .sourceRoots List.mem_cons_self (Or.inl rfl)⟩

end ScanConfig

end BuilderAudit
