import BuilderAudit.Proofs.Scan.Unseen
import BuilderAudit.Proofs.Source.Concatenation
import BuilderAudit.Proofs.Text.Utf8

/-!
# Line ends

A line ends with a line feed or with a carriage return and a line feed. Carriage returns that are put in front of line
feeds make no difference to the lines of a text, whichever line feeds they are, and so none to a run.

* `Text.ReturnsAdded` : a text and the same text with carriage returns in front of some of its line feeds;
* `Text.Abreast` : what holds of two such texts after each character, from which `lines_returnsAdded` follows;
* `FileTree.ReturnsAdded` : trees whose files differ in their line ends at most (`load_returnsAdded`);
* `lineEnds_unseen` : the same source files, and the same runs in such trees.
-/

namespace BuilderAudit

namespace Text

variable {cs cs' front begun : List Char}

/-- The second text is the first one with a carriage return in front of some of its line feeds, but of none that has a
carriage return in front of it already. -/
inductive ReturnsAdded : List Char → List Char → Prop
  | nil : ReturnsAdded [] []
  | same {cs cs' : List Char} (h : ReturnsAdded cs cs') (c : Char) : ReturnsAdded (cs ++ [c]) (cs' ++ [c])
  | added {cs cs' : List Char} (h : ReturnsAdded cs cs') (bare : cs.getLast? ≠ some '\r') :
    ReturnsAdded (cs ++ ['\n']) (cs' ++ ['\r', '\n'])

/-! ## Character by character -/

/-- Two texts with the same lines up to one that has been begun in both. -/
inductive Abreast : List Char → List Char → Prop
  | of {front front' : List Char} (begun : List Char) (starts : StartsLine front) (starts' : StartsLine front')
    (feed : '\n' ∉ begun) (same : lines front = lines front') : Abreast (front ++ begun) (front' ++ begun)

theorem Abreast.lines_eq (h : Abreast cs cs') : lines cs = lines cs' := by
  obtain ⟨begun, starts, starts', -, same⟩ := h
  rw [lines_append starts, lines_append starts', same]

theorem startsLine_feed (cs : List Char) : StartsLine (cs ++ ['\n']) := Or.inr (by simp)

/-- A line feed ends the line that has been begun. -/
theorem lines_feed (h : StartsLine front) (hfeed : '\n' ∉ begun) :
    lines (front ++ begun ++ ['\n']) = lines front ++ [withoutReturn begun] := by
  rw [List.append_assoc, lines_append h, lines_terminated hfeed]
  rfl

/-- Texts that have the same lines and have begun no other one. -/
theorem Abreast.of_lines (starts : StartsLine cs) (starts' : StartsLine cs') (same : lines cs = lines cs') :
    Abreast cs cs' := by
  have hnothing := Abreast.of [] starts starts' (by simp) same
  rwa [List.append_nil, List.append_nil] at hnothing

theorem Abreast.char (h : Abreast cs cs') (c : Char) : Abreast (cs ++ [c]) (cs' ++ [c]) := by
  obtain ⟨begun, starts, starts', feed, same⟩ := h
  by_cases hc : c = '\n'
  · subst hc
    refine .of_lines (startsLine_feed _) (startsLine_feed _) ?_
    rw [lines_feed starts feed, lines_feed starts' feed, same]
  · rw [List.append_assoc, List.append_assoc]
    exact .of _ starts starts' (by simp [feed, Ne.symm hc]) same

/-- The carriage return is left out with the line feed, so that the line that has been begun ends alike. -/
theorem Abreast.added (h : Abreast cs cs') (bare : cs.getLast? ≠ some '\r') :
    Abreast (cs ++ ['\n']) (cs' ++ ['\r', '\n']) := by
  obtain @⟨front, front', begun, starts, starts', feed, same⟩ := h
  have hbegun : begun.getLast? ≠ some '\r' := by
    intro hlast
    rw [List.getLast?_append, hlast] at bare
    exact bare rfl
  have hreturn : '\n' ∉ begun ++ ['\r'] := by simp [feed]
  rw [show front' ++ begun ++ ['\r', '\n'] = front' ++ (begun ++ ['\r']) ++ ['\n'] by simp]
  refine .of_lines (startsLine_feed _) (startsLine_feed _) ?_
  rw [lines_feed starts feed, lines_feed starts' hreturn, withoutReturn_concat, withoutReturn_of_getLast? hbegun, same]

theorem ReturnsAdded.abreast (h : ReturnsAdded cs cs') : Abreast cs cs' := by
  induction h with
  | nil => exact .of_lines (Or.inl rfl) (Or.inl rfl) rfl
  | same _ c ih => exact ih.char c
  | added _ bare ih => exact ih.added bare

/-- A text has the same lines with more carriage returns at its line ends. -/
theorem lines_returnsAdded (h : ReturnsAdded cs cs') : lines cs = lines cs' := h.abreast.lines_eq

end Text

open Text

theorem ofContent_returnsAdded {cs cs' : List Char} (h : ReturnsAdded cs cs') (path : Path) :
    SourceFile.ofContent path cs = SourceFile.ofContent path cs' := by
  rw [SourceFile.ofContent, SourceFile.ofContent, lines_returnsAdded h]

/-! ## Trees -/

/-- Two files that hold the same, or texts of which one is the other with carriage returns added. -/
def SameButReturns (content content' : List UInt8) : Prop :=
  content = content' ∨
    ∃ cs cs', ReturnsAdded cs cs' ∧ content = Utf8.encode cs ∧ content' = Utf8.encode cs'

/-- The second tree is the first one with carriage returns added to the texts in some of its files. -/
structure FileTree.ReturnsAdded (a b : FileTree) : Prop where
  alike : a.Alike b
  files : ∀ names content mode content' mode', a.root.get? names = some (.file content mode) →
    b.root.get? names = some (.file content' mode') → mode = mode' ∧ SameButReturns content content'

variable {a b : FileTree}

/-- A path is loaded as the same source file from both trees. -/
theorem load_returnsAdded (h : a.ReturnsAdded b) (ha : a.WellFormed) (hb : b.WellFormed) (path : Path) :
    SourceFile.load a path = SourceFile.load b path := by
  have hread : Agree SameButReturns (a.read path) (b.read path) :=
    read_agree h.alike ha hb fun names _ _ _ _ _ hbefore hafter => h.files names _ _ _ _ hbefore hafter
  rw [SourceFile.load, SourceFile.load, FileTree.readText, FileTree.readText]
  generalize a.read path = x, b.read path = y at hread ⊢
  cases hread with
  | error e => rfl
  | ok hcontent =>
      rcases hcontent with rfl | ⟨cs, cs', hadded, rfl, rfl⟩
      · rfl
      · have hdecode := Utf8.decode?_eq_some_iff.mpr (rfl : Utf8.encode cs = Utf8.encode cs)
        have hdecode' := Utf8.decode?_eq_some_iff.mpr (rfl : Utf8.encode cs' = Utf8.encode cs')
        simp only [bind, Except.bind, hdecode, hdecode']
        exact congrArg Except.ok (ofContent_returnsAdded hadded path)

/-- Two texts that come to the same. -/
structure SourceFile.ReadsAlike (path : Path) (cs cs' : List Char) : Prop where
  lines : (ofContent path cs).lines = (ofContent path cs').lines
  packageName : (ofContent path cs).packageName? = (ofContent path cs').packageName?
  markerLines : ∀ d : Detector, d.markerLines (ofContent path cs) = d.markerLines (ofContent path cs')
  isDeprecated : ∀ d : Detector, d.isDeprecated (ofContent path cs) = d.isDeprecated (ofContent path cs')

/-- **Carriage returns in front of line feeds make no difference: not to what is made of a text, and not to a run.** -/
theorem lineEnds_unseen :
    (∀ path cs cs', Text.ReturnsAdded cs cs' → SourceFile.ReadsAlike path cs cs') ∧
      ∀ {σ : Type} (s : Scanner) (t : Transformer σ) (a b : FileTree), t.Blind → a.WellFormed → b.WellFormed →
        a.ReturnsAdded b → s.RunsAlike t a b := by
  constructor
  · intro path cs cs' h
    have hsame := ofContent_returnsAdded h path
    exact ⟨by rw [hsame], by rw [hsame], fun d => by rw [hsame], fun d => by rw [hsame]⟩
  · intro σ s t a b ht ha hb h
    have hload : ∀ root ∈ s.config.sourceRoots, ∀ found,
        (discover a root s.pattern s.config.onReadError).1 = .ok found →
          ∀ path ∈ found.files, SourceFile.load a path = SourceFile.load b path :=
      fun _ _ _ _ path _ => load_returnsAdded h ha hb path
    refine ⟨fun x log report => ?_, fun x log report => ?_, fun x log report => ?_⟩
    · exact (exec_run_swapped ht h.alike ha hb hload x log report).1
    · rw [(exec_run_swapped (recorded_blind ht) h.alike ha hb hload x log report).2.rest]
    · rw [(exec_run_swapped ht h.alike ha hb hload x log report).2.rest]

/-- The place of the file `/w/s/a/Bx` of `sampleTree`. -/
def sampleMarked : List Name := [[0x77], [0x73], [0x61], [0x42, 0x78]]

/-- `sampleTree` with a carriage return in the file that carries the marker. -/
def sampleReturns : FileTree := sampleTree.alter sampleMarked fun _ => some (.file [0x40, 0x0D, 0x0A] .file)

theorem sampleReturns_wellFormed : sampleReturns.WellFormed := sampleTree_wellFormed.replaceFile rfl

theorem sampleReturns_returnsAdded : sampleTree.ReturnsAdded sampleReturns := by
  have hold : sampleTree.root.get? sampleMarked = some (.file [0x40, 0x0A] .file) := rfl
  have hthere : sampleReturns.root.get? sampleMarked = some (.file [0x40, 0x0D, 0x0A] .file) := rfl
  have hchanged : FileTree.ChangedAt sampleMarked sampleTree sampleReturns :=
    (FileTree.changedAt_replace sampleTree_wellFormed hold).1
  refine ⟨hchanged.alike hold hthere, fun names content mode content' mode' hbefore hafter => ?_⟩
  by_cases hsame : (content, mode) = (content', mode')
  · obtain ⟨rfl, rfl⟩ := Prod.mk.inj hsame
    exact ⟨rfl, Or.inl rfl⟩
  · obtain rfl := hchanged.eq_place hbefore hafter hsame
    cases hold.symm.trans hbefore
    cases hthere.symm.trans hafter
    exact ⟨rfl, Or.inr ⟨"@\n".toList, "@\r\n".toList, .added (.same .nil '@') (by decide), rfl, rfl⟩⟩

/-- The first and the last line feed get a carriage return; the second one has one, and so has the line behind it. -/
theorem sampleReturns_added : Text.ReturnsAdded "@\na\r\n\rb\n".toList "@\r\na\r\n\rb\r\n".toList :=
  .added (.same (.same (.same (.same (.same (.added (.same .nil '@') (by decide)) 'a') '\r') '\n') '\r') 'b')
    (by decide)

theorem sampleReturns_unseen :
    Text.ReturnsAdded "@\na\r\n\rb\n".toList "@\r\na\r\n\rb\r\n".toList ∧
      SourceFile.ReadsAlike ⟨[0x61]⟩ "@\na\r\n\rb\n".toList "@\r\na\r\n\rb\r\n".toList ∧
      Transformer.idle.Blind ∧ sampleTree.WellFormed ∧ sampleReturns.WellFormed ∧
      sampleTree.ReturnsAdded sampleReturns ∧ sampleScanner.RunsAlike Transformer.idle sampleTree sampleReturns :=
  ⟨sampleReturns_added, lineEnds_unseen.1 _ _ _ sampleReturns_added, idle_blind, sampleTree_wellFormed,
    sampleReturns_wellFormed, sampleReturns_returnsAdded, lineEnds_unseen.2 _ _ _ _ idle_blind sampleTree_wellFormed
      sampleReturns_wellFormed sampleReturns_returnsAdded⟩

end BuilderAudit
