import BuilderAudit.Source
import BuilderAudit.Proofs.Text.Lines

/-!
# What a detector finds

A detector looks at lines without their ends. What it finds is said here in terms of the whole text: where the marker
stands in it, within which line, and where in that line.

* `occursIn_iff` : a text is found where it stands;
* `mem_markerLines_iff`, `markerLines_pairwise`, `isDeprecated_iff` : the lines that are hits;
* `hits_iff_of_contains`, `hits_iff_of_legacy` : what it takes for a line to be a hit;
* `detector_finds` : both modes in terms of the whole text (`Detector.Finds`).
-/

namespace BuilderAudit

open Text

variable {d : Detector} {path : Path} {content : List Char} {source : SourceFile} {i k : Nat}

/-! ## Texts in texts -/

theorem Text.occursIn_iff {part cs : List Char} : occursIn part cs = true ↔ ∃ u w, cs = u ++ (part ++ w) := by
  induction cs with
  | nil => simp [occursIn]
  | cons c cs ih =>
      rw [occursIn, Bool.or_eq_true, List.isPrefixOf_iff_prefix, ih]
      constructor
      · rintro (⟨w, hw⟩ | ⟨u, w, rfl⟩)
        · exact ⟨[], w, hw.symm⟩
        · exact ⟨c :: u, w, rfl⟩
      · rintro ⟨u, w, huw⟩
        cases u with
        | nil => exact Or.inl ⟨w, huw.symm⟩
        | cons _ u =>
            obtain ⟨rfl, rfl⟩ := List.cons.inj huw
            exact Or.inr ⟨u, w, rfl⟩

/-! ## The lines that are hits -/

theorem markerLines_eq (d : Detector) (source : SourceFile) :
    d.markerLines source = ((source.lines.zipIdx 1).filter fun numbered => d.hits numbered.1).map Prod.snd := by
  rw [Detector.markerLines, ← List.filterMap_eq_map, List.filterMap_filter]
  refine List.filterMap_congr fun numbered _ => ?_
  rfl

/-- The numbers of the hits. -/
theorem mem_markerLines_iff :
    k ∈ d.markerLines source ↔ ∃ i line, k = i + 1 ∧ source.lines[i]? = some line ∧ d.hits line = true := by
  rw [markerLines_eq]
  simp only [List.mem_map, List.mem_filter, Prod.exists, exists_eq_right]
  constructor
  · rintro ⟨line, hmem, hhit⟩
    obtain ⟨hk, hline⟩ := List.mk_mem_zipIdx_iff_le_and_getElem?_sub.mp hmem
    exact ⟨k - 1, line, by omega, hline, hhit⟩
  · rintro ⟨i, line, rfl, hline, hhit⟩
    refine ⟨line, List.mk_mem_zipIdx_iff_le_and_getElem?_sub.mpr ⟨by omega, ?_⟩, hhit⟩
    rwa [Nat.add_sub_cancel]

theorem markerLines_pairwise (d : Detector) (source : SourceFile) : (d.markerLines source).Pairwise (· < ·) := by
  rw [markerLines_eq]
  refine List.Pairwise.sublist (List.filter_sublist.map Prod.snd) ?_
  rw [List.zipIdx_map_snd]
  exact List.pairwise_lt_range'

theorem isDeprecated_iff : d.isDeprecated source = true ↔ d.markerLines source ≠ [] := by
  rw [Detector.isDeprecated, List.any_eq_true, ne_eq, List.eq_nil_iff_forall_not_mem, not_forall_not]
  constructor
  · rintro ⟨line, hmem, hhit⟩
    obtain ⟨i, hline⟩ := List.mem_iff_getElem?.mp hmem
    exact ⟨i + 1, mem_markerLines_iff.mpr ⟨i, line, rfl, hline, hhit⟩⟩
  · rintro ⟨k, hk⟩
    obtain ⟨i, line, -, hline, hhit⟩ := mem_markerLines_iff.mp hk
    exact ⟨line, List.mem_of_getElem? hline, hhit⟩

/-- The numbers of the hits, by what stands where in the text. -/
theorem mem_markerLines_ofContent_iff :
    k ∈ d.markerLines (.ofContent path content) ↔
      ∃ i before line behind, k = i + 1 ∧ LineAt content i before line behind ∧ d.hits (String.ofList line) = true := by
  rw [mem_markerLines_iff]
  simp only [SourceFile.ofContent, List.getElem?_map, Option.map_eq_some_iff, getElem?_lines_iff]
  constructor
  · rintro ⟨i, _, rfl, ⟨line, ⟨before, behind, hline⟩, rfl⟩, hhit⟩
    exact ⟨i, before, line, behind, rfl, hline, hhit⟩
  · rintro ⟨i, before, line, behind, rfl, hline, hhit⟩
    exact ⟨i, _, rfl, ⟨line, ⟨before, behind, hline⟩, rfl⟩, hhit⟩

theorem hits_iff_of_contains (h : d.mode = .contains) {line : List Char} :
    d.hits (String.ofList line) = true ↔ ∃ u w, line = u ++ (d.marker.toList ++ w) := by
  rw [Detector.hits, h, String.toList_ofList]
  exact occursIn_iff

theorem hits_iff_of_legacy (h : d.mode = .legacy) {line : List Char} :
    d.hits (String.ofList line) = true ↔ ¬ ∃ w, line = d.marker.toList ++ w := by
  have hprefix : d.marker.toList.isPrefixOf line = true ↔ ∃ w, line = d.marker.toList ++ w :=
    List.isPrefixOf_iff_prefix.trans (exists_congr fun w => eq_comm)
  rw [Detector.hits, h, String.toList_ofList, ← hprefix, Bool.not_eq_true', Bool.not_eq_true]

/-! ## The whole text -/

/-- What a detector finds in a text. -/
structure Detector.Finds (d : Detector) (path : Path) (content : List Char) : Prop where
  /-- A line is a hit if the marker stands within it. -/
  contains : d.mode = .contains → ∀ k, k ∈ d.markerLines (.ofContent path content) ↔
    ∃ before after, Inside content d.marker.toList before after ∧ before.count '\n' + 1 = k
  /-- A line is a hit unless the marker stands within it, at its start. -/
  legacy : d.mode = .legacy → ∀ k, k ∈ d.markerLines (.ofContent path content) ↔
    HasLine content k ∧ ¬ ∃ before after, Inside content d.marker.toList before after ∧ before.count '\n' + 1 = k ∧
      StartsLine before
  increasing : (d.markerLines (.ofContent path content)).Pairwise (· < ·)
  isDeprecated : d.isDeprecated (.ofContent path content) = true ↔ d.markerLines (.ofContent path content) ≠ []

/-- **What a detector finds line by line is what stands in the text.** -/
theorem detector_finds (hmarker : d.marker ≠ "") (path : Path) (content : List Char) : d.Finds path content := by
  have hne : d.marker.toList ≠ [] := by simpa using hmarker
  refine ⟨fun hmode k => ?_, fun hmode k => ?_, markerLines_pairwise d _, isDeprecated_iff⟩
  · rw [mem_markerLines_ofContent_iff]
    constructor
    · rintro ⟨i, before, line, behind, rfl, hline, hhit⟩
      obtain ⟨u, w, rfl⟩ := (hits_iff_of_contains hmode).mp hhit
      obtain ⟨hinside, hnumber⟩ := hline.inside
      exact ⟨_, _, hinside, congrArg (· + 1) hnumber⟩
    · rintro ⟨before, after, hinside, rfl⟩
      obtain ⟨front, u, w, behind, -, -, hline⟩ := hinside.exists_lineAt hne
      exact ⟨_, front, _, behind, rfl, hline, (hits_iff_of_contains hmode).mpr ⟨u, w, rfl⟩⟩
  · rw [mem_markerLines_ofContent_iff]
    constructor
    · rintro ⟨i, before, line, behind, rfl, hline, hhit⟩
      refine ⟨exists_lineAt_iff.mp ⟨before, line, behind, hline⟩, ?_⟩
      rintro ⟨before', after, hinside, hnumber, hstarts⟩
      obtain ⟨front, u, w, behind', rfl, hu, hline'⟩ := hinside.exists_lineAt hne
      obtain rfl := eq_nil_of_startsLine_append hstarts hu
      rw [Nat.succ.inj hnumber] at hline'
      have hsame := Option.some.inj
        ((getElem?_lines_iff.mpr ⟨_, _, hline⟩).symm.trans (getElem?_lines_iff.mpr ⟨_, _, hline'⟩))
      exact (hits_iff_of_legacy hmode).mp hhit ⟨w, hsame⟩
    · rintro ⟨hhas, hnone⟩
      obtain ⟨i, rfl⟩ : ∃ i, k = i + 1 := by cases hhas <;> exact ⟨_, rfl⟩
      obtain ⟨before, line, behind, hline⟩ := exists_lineAt_iff.mpr hhas
      refine ⟨i, before, line, behind, rfl, hline, (hits_iff_of_legacy hmode).mpr ?_⟩
      rintro ⟨w, rfl⟩
      obtain ⟨hinside, hnumber⟩ := hline.inside (u := [])
      rw [List.append_nil] at hinside hnumber
      exact hnone ⟨before, _, hinside, congrArg (· + 1) hnumber, hline.starts⟩

/-- A carriage return at the end of the marker. -/
def sampleDetector : Detector := ⟨"a\r", .contains⟩

/-- The marker twice, once in front of a carriage return and once at the end of the text. -/
def sampleLines : List Char := "a\r\r\na\r\nba\r".toList

/-- A carriage return of a line end is no part of the line. -/
theorem sampleDetector_finds : sampleDetector.marker ≠ "" ∧ sampleDetector.Finds ⟨[0x61]⟩ sampleLines ∧
    sampleDetector.markerLines (.ofContent ⟨[0x61]⟩ sampleLines) = [1, 3] :=
  have hmarker : sampleDetector.marker ≠ "" := by decide
  ⟨hmarker, detector_finds hmarker _ _, by decide +kernel⟩

end BuilderAudit
