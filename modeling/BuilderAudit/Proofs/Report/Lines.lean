import BuilderAudit.Proofs.Text.Utf8
import BuilderAudit.Report
import Mathlib

/-!
# Reports read back from their lines

A report as text has a line for each match, the index of the match and its path. A path may hold line feeds, and what
stands behind one may look like the line of the next match: such a path imitates it. Without imitation the paths can be
read off the text; with two matches there always is another report with the same text, whose last path imitates.

* `Numbered`, `Report.Regular` : the indices count up, and the paths are absolute and valid UTF-8;
* `Match.Imitates` : a path that holds the start of the next match's line behind a line feed;
* `first_path_eq`, `paths_eq_or_imitates` : the first path of two lists of lines with the same text, and all paths;
* `Numbered.exists_merged`, `Numbered.exists_parted` : other matches with the same lines;
* `report_lines` : how many lines a report has, and whether another report has the same text.
-/

namespace BuilderAudit

/-! ## Paths of texts -/

namespace Path

theorem display_ofString (s : String) : (ofString s).display = s := by
  have hparts : (Utf8.parts (Utf8.encode s.toList)).map (fun c => c.getD '\uFFFD') = s.toList := by
    rw [Utf8.parts_encode, List.map_map]
    exact List.map_id s.toList
  show String.ofList ((Utf8.parts (Utf8.encode s.toList)).map fun c => c.getD '\uFFFD') = s
  rw [hparts, String.ofList_toList]

theorem IsText.ofString_display {p : Path} (h : p.IsText) : ofString p.display = p := by
  obtain ⟨s, rfl⟩ := h
  rw [display_ofString]

/-- The path of a text is absolute exactly if the text starts with a slash. -/
theorem isAbsolute_ofString_iff {s : String} : (ofString s).isAbsolute = true ↔ ∃ rest, s.toList = '/' :: rest := by
  unfold isAbsolute ofString
  rw [beq_iff_eq]
  constructor
  · intro h
    obtain ⟨bytes, hbytes⟩ := List.head?_eq_some_iff.mp h
    cases hs : s.toList with
    | nil =>
        rw [hs] at hbytes
        cases hbytes
    | cons c rest =>
        rw [hs] at hbytes
        have hslash : Utf8.next slash bytes = (some '/', bytes) := rfl
        have hc : Utf8.next slash bytes = (some c, Utf8.encode rest) := Utf8.next_eq_some_iff.mpr hbytes.symm
        rw [hslash, Prod.mk.injEq, Option.some.injEq] at hc
        exact ⟨rest, by rw [hc.1]⟩
  · rintro ⟨rest, hrest⟩
    rw [hrest]
    rfl

end Path

/-! ## Lines as characters -/

/-- What stands in front of the path in the line of a match with a given index. -/
def Match.label (index : Nat) : List Char := (toString index).toList ++ [' ']

/-- The path of a match holds the start of the next match's line behind a line feed. -/
def Match.Imitates (m : Match) : Prop :=
  ∃ front back, m.path.display.toList = front ++ '\n' :: (label (m.index + 1) ++ '/' :: back)

theorem Match.newline_notMem_label (index : Nat) : '\n' ∉ label index := by
  have hdigits : '\n' ∉ Nat.toDigits 10 index := fun h =>
    absurd (Nat.isDigit_of_mem_toDigits (by decide) (by decide) h) (by decide)
  simp [label, hdigits]

theorem Match.toList_line (m : Match) :
    m.line.toList = label m.index ++ (m.path.display.toList ++ ['\n']) := by
  simp [line, label]

def linesOf (ms : List Match) : List Char := ms.flatMap fun m => m.line.toList

theorem linesOf_cons (m : Match) (ms : List Match) :
    linesOf (m :: ms) = Match.label m.index ++ (m.path.display.toList ++ '\n' :: linesOf ms) := by
  simp [linesOf, Match.toList_line]

theorem Report.toList_text (r : Report) : r.text.toList = linesOf r.found := by
  have hjoin : ∀ (ss : List String) (s : String),
      (ss.foldl (fun s t => s ++ t) s).toList = s.toList ++ ss.flatMap String.toList := by
    intro ss
    induction ss with
    | nil => simp
    | cons t ss ih => intro s; simp [ih]
  unfold text linesOf
  rw [String.join, hjoin]
  simp [List.flatMap_map]

/-- Each match accounts for one line feed and for those in its path. -/
theorem count_newline_linesOf (ms : List Match) :
    (linesOf ms).count '\n' = ms.length + (ms.map fun m => m.path.display.toList.count '\n').sum := by
  induction ms with
  | nil => rfl
  | cons m ms ih =>
      have hlabel : (Match.label m.index).count '\n' = 0 := List.count_eq_zero.mpr (Match.newline_notMem_label m.index)
      rw [linesOf_cons, List.count_append, List.count_append, List.count_cons_self, ih, hlabel, List.map_cons,
        List.sum_cons, List.length_cons]
      omega

/-! ## Reading paths off the lines -/

/-- Matches with absolute paths that are valid UTF-8, numbered from `n` on. -/
structure Numbered (n : Nat) (ms : List Match) : Prop where
  indices : ms.map Match.index = List.range' n ms.length
  absolute : ∀ m ∈ ms, m.path.isAbsolute = true
  isText : ∀ m ∈ ms, m.path.IsText

namespace Numbered

variable {n : Nat} {m m' : Match} {ms ms' : List Match}

theorem cons_iff :
    Numbered n (m :: ms) ↔ m.index = n ∧ m.path.isAbsolute = true ∧ m.path.IsText ∧ Numbered (n + 1) ms := by
  constructor
  · rintro ⟨hindices, habsolute, htext⟩
    rw [List.map_cons, List.length_cons, List.range'_succ, List.cons.injEq] at hindices
    rw [List.forall_mem_cons] at habsolute htext
    exact ⟨hindices.1, habsolute.1, htext.1, hindices.2, habsolute.2, htext.2⟩
  · rintro ⟨rfl, habsolute, htext, h⟩
    refine ⟨?_, List.forall_mem_cons.mpr ⟨habsolute, h.absolute⟩, List.forall_mem_cons.mpr ⟨htext, h.isText⟩⟩
    rw [List.map_cons, List.length_cons, List.range'_succ, h.indices]

theorem display_eq (h : Numbered n (m :: ms)) : ∃ rest, m.path.display.toList = '/' :: rest := by
  obtain ⟨-, habsolute, htext, -⟩ := cons_iff.mp h
  rw [← htext.ofString_display] at habsolute
  exact Path.isAbsolute_ofString_iff.mp habsolute

/-- The lines of some matches start with a label and a slash. -/
theorem linesOf_eq (h : Numbered n ms) (hne : ms ≠ []) : ∃ rest, linesOf ms = Match.label n ++ '/' :: rest := by
  cases ms with
  | nil => exact absurd rfl hne
  | cons m ms =>
      obtain ⟨rest, hrest⟩ := h.display_eq
      rw [linesOf_cons, hrest, (cons_iff.mp h).1]
      exact ⟨_, rfl⟩

end Numbered

/-- If a path is a longer one cut off in front of the lines of some matches, then what the longer one goes on with is
the start of these lines. -/
theorem longer_path_eq {n : Nat} {more rest : List Char} {ms : List Match} (h : Numbered n ms)
    (hne : more ≠ []) (heq : '\n' :: linesOf ms = more ++ '\n' :: rest) :
    ms ≠ [] ∧ ∃ back, more = '\n' :: (Match.label n ++ '/' :: back) := by
  cases more with
  | nil => exact absurd rfl hne
  | cons c more =>
      rw [List.cons_append, List.cons.injEq] at heq
      obtain ⟨rfl, heq⟩ := heq
      have hms : ms ≠ [] := by
        rintro rfl
        simp [linesOf] at heq
      obtain ⟨tail, htail⟩ := h.linesOf_eq hms
      refine ⟨hms, ?_⟩
      have hlabel : '\n' ∉ Match.label n ++ ['/'] := by
        simp [Match.newline_notMem_label]
      rw [htail, List.append_cons] at heq
      obtain ⟨back, rfl, -⟩ | ⟨back, hback, hrest⟩ := List.append_eq_append_iff.mp heq
      · exact ⟨back, by simp⟩
      · cases back with
        | nil =>
            rw [List.append_nil] at hback
            exact ⟨[], by rw [hback]⟩
        | cons c back =>
            rw [List.cons_append, List.cons.injEq] at hrest
            rw [hback, ← hrest.1] at hlabel
            simp at hlabel

/-- The first paths of two lists of lines with the same text are equal, unless one of them imitates the next line of the
other list. -/
theorem first_path_eq {n : Nat} {m m' : Match} {ms ms' : List Match} (h : Numbered n (m :: ms))
    (h' : Numbered n (m' :: ms')) (heq : linesOf (m :: ms) = linesOf (m' :: ms')) :
    (m.path = m'.path ∧ linesOf ms = linesOf ms') ∨ m.Imitates ∨ (m'.Imitates ∧ ms ≠ []) := by
  obtain ⟨hindex, -, htext, hms⟩ := Numbered.cons_iff.mp h
  obtain ⟨hindex', -, htext', hms'⟩ := Numbered.cons_iff.mp h'
  rw [linesOf_cons, linesOf_cons, hindex, hindex', List.append_cancel_left_eq] at heq
  obtain ⟨more, hmore, hrest⟩ | ⟨more, hmore, hrest⟩ := List.append_eq_append_iff.mp heq
  · by_cases hne : more = []
    · rw [hne, List.append_nil, String.toList_inj] at hmore
      rw [hne, List.nil_append, List.cons.injEq] at hrest
      refine .inl ⟨?_, hrest.2⟩
      rw [← htext.ofString_display, ← hmore, htext'.ofString_display]
    · obtain ⟨hms, back, hback⟩ := longer_path_eq hms hne hrest
      exact .inr (.inr ⟨⟨_, back, by rw [hindex', hmore, hback]⟩, hms⟩)
  · by_cases hne : more = []
    · rw [hne, List.append_nil, String.toList_inj] at hmore
      rw [hne, List.nil_append, List.cons.injEq] at hrest
      refine .inl ⟨?_, hrest.2.symm⟩
      rw [← htext.ofString_display, hmore, htext'.ofString_display]
    · obtain ⟨-, back, hback⟩ := longer_path_eq hms' hne hrest
      exact .inr (.inl ⟨_, back, by rw [hindex, hmore, hback]⟩)

/-- The paths of two lists of lines with the same text are equal, unless a path imitates the next line. -/
theorem paths_eq_or_imitates {n : Nat} {ms ms' : List Match} (h : Numbered n ms) (h' : Numbered n ms')
    (heq : linesOf ms = linesOf ms') :
    ms.map Match.path = ms'.map Match.path ∨ (∃ m ∈ ms, m.Imitates) ∨ ((∃ m ∈ ms', m.Imitates) ∧ 2 ≤ ms.length) := by
  induction ms generalizing n ms' with
  | nil =>
      cases ms' with
      | nil => exact .inl rfl
      | cons m' ms' =>
          rw [linesOf_cons] at heq
          simp [linesOf] at heq
  | cons m ms ih =>
      cases ms' with
      | nil =>
          rw [linesOf_cons] at heq
          simp [linesOf] at heq
      | cons m' ms' =>
          obtain ⟨-, -, -, hms⟩ := Numbered.cons_iff.mp h
          obtain ⟨-, -, -, hms'⟩ := Numbered.cons_iff.mp h'
          rcases first_path_eq h h' heq with ⟨hpath, hrest⟩ | himitates | ⟨himitates, hne⟩
          · rcases ih hms hms' hrest with hpaths | ⟨x, hx, himitates⟩ | ⟨⟨x, hx, himitates⟩, hlength⟩
            · exact .inl (by rw [List.map_cons, List.map_cons, hpath, hpaths])
            · exact .inr (.inl ⟨x, List.mem_cons_of_mem m hx, himitates⟩)
            · refine .inr (.inr ⟨⟨x, List.mem_cons_of_mem m' hx, himitates⟩, ?_⟩)
              rw [List.length_cons]
              omega
          · exact .inr (.inl ⟨m, List.mem_cons_self, himitates⟩)
          · refine .inr (.inr ⟨⟨m', List.mem_cons_self, himitates⟩, ?_⟩)
            have hlength : 0 < ms.length := List.length_pos_iff.mpr hne
            rw [List.length_cons]
            omega

/-! ## Other lines with the same text -/

def Match.renamed (m : Match) (index : Nat) (text : List Char) : Match :=
  { m with index := index, path := .ofString (.ofList text) }

theorem linesOf_renamed (m : Match) (index : Nat) (text : List Char) (ms : List Match) :
    linesOf (m.renamed index text :: ms) = Match.label index ++ (text ++ '\n' :: linesOf ms) := by
  rw [linesOf_cons]
  show Match.label index ++ ((Path.ofString (String.ofList text)).display.toList ++ '\n' :: linesOf ms) = _
  rw [Path.display_ofString, String.toList_ofList]

theorem Numbered.nil (n : Nat) : Numbered n [] := ⟨rfl, by simp, by simp⟩

theorem Numbered.renamed {n : Nat} {ms : List Match} (h : Numbered (n + 1) ms) (m : Match) (rest : List Char) :
    Numbered n (m.renamed n ('/' :: rest) :: ms) :=
  Numbered.cons_iff.mpr
    ⟨rfl, Path.isAbsolute_ofString_iff.mpr ⟨rest, String.toList_ofList⟩, ⟨_, rfl⟩, h⟩

/-- The last of two matches or more can be taken for a part of the path in front of it. -/
theorem Numbered.exists_merged {n : Nat} {ms : List Match} (h : Numbered n ms) (hlength : 2 ≤ ms.length) :
    ∃ ms', Numbered n ms' ∧ linesOf ms' = linesOf ms ∧ ms'.length + 1 = ms.length := by
  induction ms generalizing n with
  | nil => simp at hlength
  | cons m ms ih =>
      obtain ⟨hindex, habsolute, htext, hms⟩ := Numbered.cons_iff.mp h
      match ms with
      | [] => simp at hlength
      | [last] =>
          obtain ⟨rest, hrest⟩ := h.display_eq
          obtain ⟨hlast, -⟩ := Numbered.cons_iff.mp hms
          refine ⟨[m.renamed n ('/' :: (rest ++ '\n' :: (Match.label (n + 1) ++ last.path.display.toList)))],
            (Numbered.nil _).renamed m _, ?_, rfl⟩
          rw [linesOf_renamed, linesOf_cons, linesOf_cons, hindex, hlast, hrest]
          simp
      | next :: last :: ms =>
          obtain ⟨ms', h', heq, hlength'⟩ := ih hms (by simp)
          refine ⟨m :: ms', Numbered.cons_iff.mpr ⟨hindex, habsolute, htext, h'⟩, ?_, ?_⟩
          · rw [linesOf_cons, linesOf_cons, heq]
          · exact congrArg (· + 1) hlength'

/-- A match that imitates the next line can be taken for two. -/
theorem Numbered.exists_parted {n : Nat} {m : Match} (h : Numbered n [m]) (himitates : m.Imitates) :
    ∃ ms', Numbered n ms' ∧ linesOf ms' = linesOf [m] ∧ ms'.length = 2 := by
  obtain ⟨front, back, himitates⟩ := himitates
  obtain ⟨rest, hrest⟩ := h.display_eq
  have hindex := (Numbered.cons_iff.mp h).1
  have hfront : ∃ front', front = '/' :: front' := by
    cases front with
    | nil => simp [hrest] at himitates
    | cons c front =>
        rw [hrest, List.cons_append, List.cons.injEq] at himitates
        exact ⟨front, by rw [himitates.1]⟩
  obtain ⟨front, rfl⟩ := hfront
  refine ⟨[m.renamed n ('/' :: front), m.renamed (n + 1) ('/' :: back)],
    ((Numbered.nil _).renamed m back).renamed m front, ?_, rfl⟩
  rw [linesOf_renamed, linesOf_renamed, linesOf_cons, himitates, hindex]
  simp

/-! ## Reports -/

namespace Report

/-- The indices of the matches count up from zero, and the paths are absolute and valid UTF-8. -/
def Regular (r : Report) : Prop := Numbered 0 r.found

theorem text_eq_iff {r r' : Report} : r.text = r'.text ↔ linesOf r.found = linesOf r'.found := by
  rw [← String.toList_inj, toList_text, toList_text]

/-- Another list of matches with the same lines makes another report with the same text. -/
theorem exists_other {r : Report} {ms : List Match} (h : Numbered 0 ms) (heq : linesOf ms = linesOf r.found)
    (hlength : ms.length ≠ r.found.length) :
    ∃ r' : Report, r'.Regular ∧ r'.text = r.text ∧ r'.found.map Match.path ≠ r.found.map Match.path := by
  refine ⟨{ r with found := ms }, h, text_eq_iff.mpr heq, fun hpaths => hlength ?_⟩
  have hmap := congrArg List.length hpaths
  rwa [List.length_map, List.length_map] at hmap

/-- A report has a line for each match and one for each line feed in a path. -/
theorem count_newline_text (r : Report) :
    r.text.toList.count '\n' =
      r.found.length + (r.found.map fun m => m.path.display.toList.count '\n').sum := by
  rw [toList_text, count_newline_linesOf]

/-- Another report has the same text if there are two matches or if a path imitates the next line, and in no other
case. -/
theorem exists_other_iff {r : Report} (h : r.Regular) :
    (∃ r' : Report, r'.Regular ∧ r'.text = r.text ∧ r'.found.map Match.path ≠ r.found.map Match.path) ↔
      2 ≤ r.found.length ∨ ∃ m ∈ r.found, m.Imitates := by
  have hnumbered : Numbered 0 r.found := h
  constructor
  · rintro ⟨r', h', heq, hpaths⟩
    rcases paths_eq_or_imitates hnumbered h' (text_eq_iff.mp heq).symm with hsame | himitates | himitates
    · exact absurd hsame.symm hpaths
    · exact .inr himitates
    · exact .inl himitates.2
  · intro hcase
    by_cases hlength : 2 ≤ r.found.length
    · obtain ⟨ms, hms, heq, hmerged⟩ := hnumbered.exists_merged hlength
      exact exists_other hms heq (by omega)
    · obtain ⟨m, hm, himitates⟩ := hcase.resolve_left hlength
      have hsingle : r.found = [m] := by
        match hfound : r.found, hm with
        | [_], hm => rw [List.mem_singleton.mp hm]
        | _ :: _ :: _, _ => simp [hfound] at hlength
      rw [hsingle] at hnumbered
      obtain ⟨ms, hms, heq, hparted⟩ := hnumbered.exists_parted himitates
      exact exists_other hms (by rw [heq, hsingle]) (by simp [hsingle, hparted])

end Report

/-- **A report as text has more lines than matches exactly by the line feeds in the paths. Without a path that imitates
the next line no two reports with different paths have the same text, but another report with such a path has the same
text as soon as there are two matches.** -/
theorem report_lines (r : Report) (h : r.Regular) :
    r.text.toList.count '\n' =
        r.found.length + (r.found.map fun m => m.path.display.toList.count '\n').sum ∧
      (∀ r' : Report, r'.Regular → r'.text = r.text → (∀ m ∈ r.found, ¬ m.Imitates) → (∀ m ∈ r'.found, ¬ m.Imitates) →
        r'.found.map Match.path = r.found.map Match.path) ∧
      ((∃ r' : Report, r'.Regular ∧ r'.text = r.text ∧ r'.found.map Match.path ≠ r.found.map Match.path) ↔
        2 ≤ r.found.length ∨ ∃ m ∈ r.found, m.Imitates) := by
  refine ⟨r.count_newline_text, fun r' h' heq hno hno' => ?_, Report.exists_other_iff h⟩
  rcases paths_eq_or_imitates h' h (Report.text_eq_iff.mp heq) with hsame | ⟨m, hm, himitates⟩ | ⟨⟨m, hm, himitates⟩, -⟩
  · exact hsame
  · exact absurd himitates (hno' m hm)
  · exact absurd himitates (hno m hm)

/-- A file with a line feed in its name. -/
def sampleFeed : Report := ⟨[.ofString "/a"], 1, 0, [⟨0, .ofString "/a\n1 /b", none, [1]⟩]⟩

def samplePlain : Report :=
  ⟨[.ofString "/a"], 2, 0, [⟨0, .ofString "/a", none, [1]⟩, ⟨1, .ofString "/b", none, [1]⟩]⟩

theorem sampleFeed_regular : sampleFeed.Regular where
  indices := rfl
  absolute := by decide
  isText := by
    intro m hm
    obtain rfl := List.mem_singleton.mp hm
    exact ⟨_, rfl⟩

theorem samplePlain_regular : samplePlain.Regular where
  indices := rfl
  absolute := by decide
  isText := by
    intro m hm
    rw [samplePlain, List.mem_cons, List.mem_singleton] at hm
    rcases hm with rfl | rfl <;> exact ⟨_, rfl⟩

theorem sampleFeed_text : sampleFeed.text = samplePlain.text := by
  rw [Report.text_eq_iff, sampleFeed, samplePlain, linesOf_cons, linesOf_cons, linesOf_cons, Path.display_ofString,
    Path.display_ofString, Path.display_ofString]
  rfl

/-- The one match of the first report takes two lines. -/
theorem sampleFeed_lines :
    sampleFeed.Regular ∧ sampleFeed.found.length = 1 ∧ sampleFeed.text.toList.count '\n' = 2 ∧
      ∃ m ∈ sampleFeed.found, m.Imitates := by
  obtain ⟨hcount, -, hother⟩ := report_lines sampleFeed sampleFeed_regular
  refine ⟨sampleFeed_regular, rfl, ?_, ?_⟩
  · rw [hcount]
    simp [sampleFeed, Path.display_ofString]
  · have hcase := hother.mp ⟨samplePlain, samplePlain_regular, sampleFeed_text.symm, by decide⟩
    exact hcase.resolve_left (by decide)

/-- Not every report can be read back from its text. -/
theorem text_not_injective :
    ¬ ∀ r r' : Report, r.Regular → r'.Regular → r.text = r'.text →
      r.found.map Match.path = r'.found.map Match.path := by
  intro h
  have hpaths := h sampleFeed samplePlain sampleFeed_regular samplePlain_regular sampleFeed_text
  exact absurd hpaths (by decide)

end BuilderAudit
