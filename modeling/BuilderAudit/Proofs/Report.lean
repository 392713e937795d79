import BuilderAudit.Proofs.Json.Value
import BuilderAudit.Proofs.Text.Utf8
import BuilderAudit.Proofs.Traversal
import BuilderAudit.Report

/-!
# Reports read back from JSON

A report is written as JSON exactly if all its paths are valid UTF-8, and whoever reads the text as JSON gets the report
back: a package that is left out is none, and a number of skipped files that is left out is zero.

* `Report.ofJson?` : the report that a JSON value stands for;
* `Match.ofJson?_eq_some`, `Report.ofJson?_eq_some` : what is written stands for what it is written for;
* `render_json_faithful` : the whole way from a report to its text and back.
-/

namespace BuilderAudit

/-! ## Reading values -/

namespace Json

/-- The value of the member with a given key. -/
def field? (key : String) : Json → Option Json
  | object members => members.lookup key
  | _ => none

def asNumber? : Json → Option Nat
  | number n => some n
  | _ => none

def asString? : Json → Option String
  | string s => some s
  | _ => none

def asArray? : Json → Option (List Json)
  | array items => some items
  | _ => none

def asPath? (j : Json) : Option Path := j.asString?.map Path.ofString

end Json

def Match.ofJson? (j : Json) : Option Match := do
  let index ← (← j.field? "index").asNumber?
  let path ← (← j.field? "path").asPath?
  let package ← match j.field? "package" with
    | none => some none
    | some name => name.asString?.map some
  let lines ← (← (← j.field? "marker_lines").asArray?).mapM Json.asNumber?
  return ⟨index, path, package, lines⟩

def Report.ofJson? (j : Json) : Option Report := do
  let roots ← (← (← j.field? "roots").asArray?).mapM Json.asPath?
  let scanned ← (← j.field? "files_scanned").asNumber?
  let skipped ← match j.field? "files_skipped" with
    | none => some 0
    | some n => n.asNumber?
  let found ← (← (← j.field? "matches").asArray?).mapM Match.ofJson?
  return ⟨roots, scanned, skipped, found⟩

theorem mapM_asNumber? (ns : List Nat) : (ns.map Json.number).mapM Json.asNumber? = some ns := by
  induction ns with
  | nil => rfl
  | cons n ns ih =>
      rw [List.map_cons, List.mapM_cons, ih]
      rfl

/-! ## Matches -/

theorem Match.json?_eq_some_iff {m : Match} {j : Json} :
    m.json? = some j ↔ ∃ path, m.path.text? = some path ∧
      j = .object ([("index", .number m.index), ("path", .string path)] ++
        (match m.package with
          | none => []
          | some name => [("package", Json.string name)]) ++
        [("marker_lines", .array (m.markerLines.map .number))]) := by
  unfold json?
  simp only [Option.bind_eq_bind, Option.bind_eq_some_iff, Option.pure_def, Option.some.injEq]
  exact exists_congr fun path => and_congr_right fun _ => eq_comm

/-- What is written for a match stands for the match. -/
theorem Match.ofJson?_eq_some {m : Match} {j : Json} (h : m.json? = some j) : Match.ofJson? j = some m := by
  obtain ⟨path, hpath, rfl⟩ := json?_eq_some_iff.mp h
  obtain ⟨index, p, package, lines⟩ := m
  have hp : Path.ofString path = p := Path.text?_eq_some_iff.mp hpath
  cases package with
  | none =>
      show (do
        let lines ← (lines.map Json.number).mapM Json.asNumber?
        return (⟨index, Path.ofString path, none, lines⟩ : Match)) = _
      rw [mapM_asNumber?, hp]
      rfl
  | some name =>
      show (do
        let lines ← (lines.map Json.number).mapM Json.asNumber?
        return (⟨index, Path.ofString path, some name, lines⟩ : Match)) = _
      rw [mapM_asNumber?, hp]
      rfl

theorem Match.exists_json?_iff {m : Match} : (∃ j, m.json? = some j) ↔ m.path.IsText := by
  rw [← Path.exists_text?_iff]
  constructor
  · rintro ⟨j, hj⟩
    obtain ⟨path, hpath, -⟩ := json?_eq_some_iff.mp hj
    exact ⟨path, hpath⟩
  · rintro ⟨path, hpath⟩
    exact ⟨_, json?_eq_some_iff.mpr ⟨path, hpath, rfl⟩⟩

/-! ## Reports -/

namespace Report

theorem json?_eq_some_iff {r : Report} {j : Json} :
    r.json? = some j ↔ ∃ roots found, r.roots.mapM (fun root => root.text?.map Json.string) = some roots ∧
      r.found.mapM Match.json? = some found ∧
      j = .object ([("roots", .array roots), ("files_scanned", .number r.filesScanned)] ++
        (if r.filesSkipped = 0 then [] else [("files_skipped", Json.number r.filesSkipped)]) ++
        [("matches", .array found)]) := by
  unfold json?
  simp only [Option.bind_eq_bind, Option.bind_eq_some_iff, Option.pure_def, Option.some.injEq]
  constructor
  · rintro ⟨roots, hroots, found, hfound, rfl⟩
    exact ⟨roots, found, hroots, hfound, rfl⟩
  · rintro ⟨roots, found, hroots, hfound, rfl⟩
    exact ⟨roots, hroots, found, hfound, rfl⟩

theorem asPath?_of_text? {p : Path} {j : Json} (h : p.text?.map Json.string = some j) : j.asPath? = some p := by
  obtain ⟨s, hs, rfl⟩ := Option.map_eq_some_iff.mp h
  show some (Path.ofString s) = some p
  rw [Path.text?_eq_some_iff.mp hs]

/-- What is written for a report stands for the report. -/
theorem ofJson?_eq_some {r : Report} {j : Json} (h : r.json? = some j) : Report.ofJson? j = some r := by
  obtain ⟨roots, found, hroots, hfound, rfl⟩ := json?_eq_some_iff.mp h
  have hroots' := mapM_eq_some_of_mapM (g := Json.asPath?) (fun _ _ => asPath?_of_text?) hroots
  have hfound' := mapM_eq_some_of_mapM (g := Match.ofJson?) (fun _ _ => Match.ofJson?_eq_some) hfound
  have hread : ∀ skipped : Nat, (do
      let roots ← roots.mapM Json.asPath?
      let found ← found.mapM Match.ofJson?
      return (⟨roots, r.filesScanned, skipped, found⟩ : Report)) =
        some ⟨r.roots, r.filesScanned, skipped, r.found⟩ := by
    intro skipped
    rw [hroots', hfound']
    rfl
  by_cases hskipped : r.filesSkipped = 0
  · rw [if_pos hskipped]
    refine (hread 0).trans ?_
    rw [← hskipped]
  · rw [if_neg hskipped]
    exact hread r.filesSkipped

theorem exists_json?_iff {r : Report} :
    (∃ j, r.json? = some j) ↔ (∀ root ∈ r.roots, root.IsText) ∧ ∀ m ∈ r.found, m.path.IsText := by
  have hroots : (∃ roots, r.roots.mapM (fun root => root.text?.map Json.string) = some roots) ↔
      ∀ root ∈ r.roots, root.IsText := by
    rw [exists_mapM_iff]
    refine forall₂_congr fun root _ => ?_
    rw [← Path.exists_text?_iff]
    simp [Option.map_eq_some_iff]
  have hfound : (∃ found, r.found.mapM Match.json? = some found) ↔ ∀ m ∈ r.found, m.path.IsText := by
    rw [exists_mapM_iff]
    exact forall₂_congr fun m _ => Match.exists_json?_iff
  rw [← hroots, ← hfound]
  constructor
  · rintro ⟨j, hj⟩
    obtain ⟨roots, found, hroots, hfound, -⟩ := json?_eq_some_iff.mp hj
    exact ⟨⟨roots, hroots⟩, found, hfound⟩
  · rintro ⟨⟨roots, hroots⟩, found, hfound⟩
    exact ⟨_, json?_eq_some_iff.mpr ⟨roots, found, hroots, hfound, rfl⟩⟩

/-! ## Texts -/

theorem itemsDepth_le {items : List Json} {n : Nat} (h : ∀ j ∈ items, j.depth ≤ n) : Json.itemsDepth items ≤ n := by
  induction items with
  | nil => exact Nat.zero_le n
  | cons j items ih =>
      rw [List.forall_mem_cons] at h
      exact Nat.max_le.mpr ⟨h.1, ih h.2⟩

theorem depth_of_match {m : Match} {j : Json} (h : m.json? = some j) : j.depth ≤ 2 := by
  obtain ⟨path, -, rfl⟩ := Match.json?_eq_some_iff.mp h
  have hlines : Json.itemsDepth (m.markerLines.map Json.number) ≤ 0 := by
    apply itemsDepth_le
    intro j hj
    obtain ⟨n, -, rfl⟩ := List.mem_map.mp hj
    exact Nat.le_refl 0
  cases m.package <;>
    simp only [Json.depth, Json.membersDepth, List.cons_append, List.nil_append] <;>
    omega

/-- The value of a report is not nested deeply. -/
theorem depth_of_report {r : Report} {j : Json} (h : r.json? = some j) : j.depth ≤ Json.depthLimit := by
  obtain ⟨roots, found, hroots, hfound, rfl⟩ := json?_eq_some_iff.mp h
  have hroots' : Json.itemsDepth roots ≤ 0 := by
    apply itemsDepth_le
    intro j hj
    obtain ⟨root, -, hroot⟩ := mem_of_mapM hroots hj
    obtain ⟨s, -, rfl⟩ := Option.map_eq_some_iff.mp hroot
    exact Nat.le_refl 0
  have hfound' : Json.itemsDepth found ≤ 2 := by
    apply itemsDepth_le
    intro j hj
    obtain ⟨m, -, hm⟩ := mem_of_mapM hfound hj
    exact depth_of_match hm
  unfold Json.depthLimit
  split_ifs <;>
    simp only [Json.depth, Json.membersDepth, List.cons_append, List.nil_append] <;>
    omega

theorem render?_json_eq_some_iff {r : Report} {text : String} :
    r.render? .json = some text ↔ ∃ j, r.json? = some j ∧ String.ofList (j.pretty 0 ++ ['\n']) = text :=
  Option.map_eq_some_iff

/-- The text of a report is read as the report. -/
theorem parse?_render {r : Report} {text : String} (h : r.render? .json = some text) :
    (Json.parse? text.toList).bind Report.ofJson? = some r := by
  obtain ⟨j, hj, rfl⟩ := render?_json_eq_some_iff.mp h
  rw [String.toList_ofList, Json.parse?_pretty (depth_of_report hj), Option.bind_some, ofJson?_eq_some hj]

end Report

/-- **A report is written as JSON exactly if its paths are valid UTF-8, and its text is read as the report, so that no
other report has the same text.** -/
theorem render_json_faithful (r : Report) :
    ((∃ text, r.render? .json = some text) ↔ (∀ root ∈ r.roots, root.IsText) ∧ ∀ m ∈ r.found, m.path.IsText) ∧
      (∀ text, r.render? .json = some text → (Json.parse? text.toList).bind Report.ofJson? = some r) ∧
      ∀ other text, r.render? .json = some text → other.render? .json = some text → other = r := by
  refine ⟨?_, fun text h => Report.parse?_render h, fun other text h hother => ?_⟩
  · rw [← Report.exists_json?_iff]
    constructor
    · rintro ⟨text, htext⟩
      obtain ⟨j, hj, -⟩ := Report.render?_json_eq_some_iff.mp htext
      exact ⟨j, hj⟩
    · rintro ⟨j, hj⟩
      exact ⟨_, Report.render?_json_eq_some_iff.mpr ⟨j, hj, rfl⟩⟩
  · have hsame := Report.parse?_render h
    rw [Report.parse?_render hother, Option.some.injEq] at hsame
    exact hsame

end BuilderAudit
