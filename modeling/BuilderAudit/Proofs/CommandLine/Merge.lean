import BuilderAudit.CommandLine.Options
import BuilderAudit.Proofs.Config.File

/-!
# Configuration files under a command line

A command line that names a configuration file asks for what the file says with the options put over it, and the whole
is checked and not the file.

* `Args.Merged` : a configuration that comes of another and a command line;
* `ScanConfig.Valid` : a configuration that passes the check (`validate_eq_ok_iff`);
* `toConfig_merged` : what a command line with a configuration file asks for.
-/

namespace BuilderAudit

/-! ## Configurations that pass the check -/

/-- There is something to scan and something to look for, and the pattern is one. -/
structure ScanConfig.Valid (config : ScanConfig) : Prop where
  roots : config.sourceRoots ≠ []
  marker : config.marker ≠ ""
  pattern : ∃ p, FilePattern.ofText? config.pattern = .ok p

theorem ScanConfig.validate_eq_ok_iff {config : ScanConfig} : config.validate = .ok () ↔ config.Valid := by
  unfold validate
  by_cases hroots : config.sourceRoots = []
  · rw [if_pos (List.isEmpty_iff.mpr hroots)]
    exact ⟨nofun, fun h => absurd hroots h.roots⟩
  · rw [if_neg (by simpa using hroots)]
    by_cases hmarker : config.marker = ""
    · rw [if_pos (by simpa using hmarker)]
      exact ⟨nofun, fun h => absurd hmarker h.marker⟩
    · rw [if_neg (by simpa using hmarker), filePattern]
      cases hpattern : FilePattern.ofText? config.pattern with
      | error e =>
          refine ⟨nofun, fun h => ?_⟩
          obtain ⟨p, hp⟩ := h.pattern
          rw [hpattern] at hp
          cases hp
      | ok p => exact ⟨fun _ => ⟨hroots, hmarker, p, hpattern⟩, fun _ => rfl⟩

namespace CommandLine

/-! ## Options over a configuration -/

/-- The new value is the one that is given, or the old one if none is given. -/
def Replaced {α : Type} (given : Option α) (old new : α) : Prop :=
  (∀ x, given = some x → new = x) ∧ (given = none → new = old)

/-- The mode is turned on by a flag and left alone without it. -/
def TurnedOn {α : Type} (flag : Bool) (mode old new : α) : Prop :=
  (flag = true → new = mode) ∧ (flag = false → new = old)

/-- What comes of a configuration under the options of a command line. -/
structure Args.Merged (a : Args) (config merged : ScanConfig) : Prop where
  roots : merged.sourceRoots = config.sourceRoots ++ a.roots
  destination : Replaced a.destination config.destinationBase merged.destinationBase
  builderNamespace : Replaced a.builderNamespace config.builderNamespace merged.builderNamespace
  pattern : Replaced a.pattern config.pattern merged.pattern
  marker : Replaced a.marker config.marker merged.marker
  markerMatch : TurnedOn a.legacyMarkerCheck .legacy config.markerMatch merged.markerMatch
  onReadError : TurnedOn a.skipUnreadable .skip config.onReadError merged.onReadError

theorem replaced_getD {α : Type} (given : Option α) (old : α) : Replaced given old (given.getD old) := by
  cases given with
  | none => exact ⟨nofun, fun _ => rfl⟩
  | some x => exact ⟨fun _ h => Option.some.inj h, nofun⟩

theorem turnedOn_ite {α : Type} (flag : Bool) (mode old : α) : TurnedOn flag mode old (if flag then mode else old) := by
  cases flag with
  | false => exact ⟨nofun, fun _ => rfl⟩
  | true => exact ⟨fun _ => rfl, nofun⟩

namespace Args

theorem merged_applyTo (a : Args) (config : ScanConfig) : a.Merged config (a.applyTo config) where
  roots := rfl
  destination := replaced_getD a.destination config.destinationBase
  builderNamespace := replaced_getD a.builderNamespace config.builderNamespace
  pattern := replaced_getD a.pattern config.pattern
  marker := replaced_getD a.marker config.marker
  markerMatch := turnedOn_ite a.legacyMarkerCheck .legacy config.markerMatch
  onReadError := turnedOn_ite a.skipUnreadable .skip config.onReadError

variable {a : Args} {tree : FileTree} {path : Path} {config : ScanConfig}

/-- Only what comes of the file and the options is checked. -/
theorem toConfig_eq (h : a.config = some path) (hload : ScanConfig.load tree path = .ok config) :
    a.toConfig tree = (a.applyTo config).validate.map fun _ => a.applyTo config := by
  rw [toConfig, base, h]
  simp only [hload, bind, Except.bind, pure, Except.pure]
  cases (a.applyTo config).validate <;> rfl

/-- Without options, a file is what is checked. -/
theorem applyTo_only (path : Path) (config : ScanConfig) :
    Args.applyTo { Args.empty with config := some path } config = config := by
  cases config
  simp [applyTo, empty]

/-- **What a command line with a configuration file asks for.** It is what the file says with the options put over it,
if that is valid, and the same as what a JSON file asks for alone that says all this. A file that cannot be loaded fails
whatever the options are. -/
theorem toConfig_merged (h : a.config = some path) (tree : FileTree) :
    (∀ config, ScanConfig.load tree path = .ok config → ∃ merged, a.Merged config merged ∧
      (∀ result, a.toConfig tree = .ok result ↔ merged.Valid ∧ result = merged) ∧
      ((∀ root ∈ merged.sourceRoots, root.IsText) → merged.destinationBase.IsText →
        ∃ value, merged.json? = some value ∧ ∀ text, text = value.compact ∨ text = value.pretty 0 →
          ∀ (tree' : FileTree) (path' : Path), path'.HasExtension "json" → tree'.Holds path' text →
            toConfig { Args.empty with config := some path' } tree' = a.toConfig tree)) ∧
      ∀ cause, ScanConfig.load tree path = .error cause → a.toConfig tree = .error cause := by
  refine ⟨fun config hload => ⟨a.applyTo config, a.merged_applyTo config, fun result => ?_, fun hroots hbase => ?_⟩, ?_⟩
  · rw [toConfig_eq h hload, ← ScanConfig.validate_eq_ok_iff]
    cases (a.applyTo config).validate with
    | error e => exact ⟨nofun, fun h => nomatch h.1⟩
    | ok u => exact ⟨fun h => ⟨rfl, (Except.ok.inj h).symm⟩, fun h => congrArg Except.ok h.2.symm⟩
  · obtain ⟨value, hvalue⟩ := ScanConfig.exists_json? hroots hbase
    refine ⟨value, hvalue, fun text htext tree' path' hpath' hholds => ?_⟩
    rw [toConfig_eq rfl (ScanConfig.load_of_json? hvalue htext hpath' hholds), applyTo_only, toConfig_eq h hload]
  · intro cause hload
    rw [toConfig, base, h]
    simp only [hload, bind, Except.bind]

/-- A configuration without roots, with an empty marker and with a pattern that is none. -/
def sampleInvalid : ScanConfig := { ScanConfig.default with marker := "", pattern := "(" }

/-- Options that supply all this. -/
def sampleOver : Args :=
  { Args.empty with
    roots := [.ofString "s"]
    config := some (.ofString "c.json")
    pattern := some "B"
    marker := some "@"
    skipUnreadable := true }

theorem sampleOver_toConfig :
    sampleOver.config = some (.ofString "c.json") ∧ ∃ (tree : FileTree) (merged : ScanConfig), ¬ sampleInvalid.Valid ∧
      ScanConfig.load tree (.ofString "c.json") = .ok sampleInvalid ∧ sampleOver.Merged sampleInvalid merged ∧
      sampleOver.toConfig tree = .ok merged := by
  obtain ⟨value, hvalue⟩ : ∃ value, sampleInvalid.json? = some value :=
    ScanConfig.exists_json? (List.forall_mem_nil _) ⟨".", rfl⟩
  let tree : FileTree :=
    ⟨.directory .directory [((Path.ofString "c.json").bytes, .file (Utf8.encode value.compact) .file)], [], false⟩
  have hload : ScanConfig.load tree (.ofString "c.json") = .ok sampleInvalid :=
    ScanConfig.load_of_json? hvalue (Or.inl rfl) ⟨"json".toList, by cbv, by decide⟩ rfl
  obtain ⟨merged, hmerged, hresult, -⟩ := (toConfig_merged (a := sampleOver) rfl tree).1 _ hload
  refine ⟨rfl, tree, merged, fun h => h.roots rfl, hload, hmerged, (hresult merged).mpr ⟨⟨?_, ?_, ?_⟩, rfl⟩⟩
  · rw [hmerged.roots]
    exact List.cons_ne_nil _ _
  · rw [hmerged.marker.1 _ rfl]
    decide
  · rw [hmerged.pattern.1 _ rfl]
    exact ⟨⟨"B", .seq (.look .textStart) (.chars ⟨[⟨0x42, 0x42⟩]⟩)⟩, by decide +kernel⟩

end Args

end CommandLine

end BuilderAudit
