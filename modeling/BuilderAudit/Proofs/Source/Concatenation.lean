import BuilderAudit.Proofs.Detector
import BuilderAudit.Proofs.Source.Package

/-!
# Texts in two parts

A text that is cut where a line starts is processed part by part: it has the lines of both parts, the lines of the
second one are numbered on, and the first part that declares a package decides.

* `markerLines_append`, `isDeprecated_append`, `packageName?_append` : source files with the lines of two others;
* `parts_compose` : texts in two parts (`SourceFile.Composes`).
-/

namespace BuilderAudit

open Text

variable {path : Path} {a : List Char}

/-! ## The lines of two source files -/

/-- The hits among the lines behind are numbered on. -/
theorem markerLines_append (d : Detector) (path : Path) (xs ys : List String) :
    d.markerLines ⟨path, xs ++ ys⟩ = d.markerLines ⟨path, xs⟩ ++ (d.markerLines ⟨path, ys⟩).map (· + xs.length) := by
  have hshift : ys.zipIdx (1 + xs.length) = (ys.zipIdx 1).map (Prod.map id (· + xs.length)) := by
    rw [List.map_snd_add_zipIdx_eq_zipIdx, Nat.add_comm]
  rw [markerLines_eq, markerLines_eq, markerLines_eq, List.zipIdx_append, List.filter_append, List.map_append, hshift,
    List.filter_map, List.map_map, List.map_map]
  rfl

theorem isDeprecated_append (d : Detector) (path : Path) (xs ys : List String) :
    d.isDeprecated ⟨path, xs ++ ys⟩ = (d.isDeprecated ⟨path, xs⟩ || d.isDeprecated ⟨path, ys⟩) :=
  List.any_append

namespace SourceFile

theorem packageName?_append (path : Path) (xs ys : List String) :
    packageName? ⟨path, xs ++ ys⟩ = (packageName? ⟨path, xs⟩).or (packageName? ⟨path, ys⟩) := by
  rw [packageName?, List.findSome?_append, Option.map_or]
  rfl

/-! ## The whole text -/

theorem lines_ofContent_append (h : StartsLine a) (b : List Char) (path : Path) :
    ofContent path (a ++ b) = ⟨path, (ofContent path a).lines ++ (ofContent path b).lines⟩ := by
  rw [ofContent, lines_append h, List.map_append]
  rfl

/-- What comes out for a text is put together from what comes out for its parts. -/
structure Composes (path : Path) (a b : List Char) : Prop where
  lines : (ofContent path (a ++ b)).lines = (ofContent path a).lines ++ (ofContent path b).lines
  /-- The lines of the second part are numbered on. -/
  markerLines : ∀ d : Detector, d.markerLines (ofContent path (a ++ b)) =
    d.markerLines (ofContent path a) ++ (d.markerLines (ofContent path b)).map (· + (ofContent path a).lines.length)
  isDeprecated : ∀ d : Detector, d.isDeprecated (ofContent path (a ++ b)) =
    (d.isDeprecated (ofContent path a) || d.isDeprecated (ofContent path b))
  /-- The first part decides if it declares a package. -/
  packageName : (ofContent path (a ++ b)).packageName? =
    (ofContent path a).packageName?.or (ofContent path b).packageName?

/-- **A text that is cut where a line starts is processed part by part.** -/
theorem parts_compose (h : StartsLine a) (b : List Char) (path : Path) : Composes path a b := by
  have happend := lines_ofContent_append h b path
  refine ⟨by rw [happend], fun d => ?_, fun d => ?_, ?_⟩
  · rw [happend]
    exact markerLines_append d path _ _
  · rw [happend]
    exact isDeprecated_append d path _ _
  · rw [happend]
    exact packageName?_append path _ _

/-- A text with a carriage return at its end, in two parts. -/
def sampleParts : List Char × List Char := ("package ;\n@\r\n".toList, "package b;\n\n@\r".toList)

theorem sampleParts_compose :
    StartsLine sampleParts.1 ∧ Composes ⟨[0x61]⟩ sampleParts.1 sampleParts.2 ∧
      (Detector.mk "@" .contains).markerLines (ofContent ⟨[0x61]⟩ (sampleParts.1 ++ sampleParts.2)) = [2, 5] :=
  have hstarts : StartsLine sampleParts.1 := Or.inr (by decide)
  ⟨hstarts, parts_compose hstarts _ _, by decide +kernel⟩

end SourceFile

end BuilderAudit
