import BuilderAudit.Proofs.Text.Lines
import BuilderAudit.Source

/-!
# Texts divided into lines

There is one way only to divide a text into lines with their ends. The lines of a source file are those of this
division, so nothing of a text is lost but the ends of its lines.

* `Piece`, `Piece.Proper` : a line with its end, and what the two may be;
* `Division` : a text divided into such pieces;
* `division_nil_iff`, `division_unterminated_iff`, `division_terminated_iff` : all divisions of a text, by its first
  line;
* `length_lines` : the number of lines;
* `lines_divided` : what a source file keeps of its content (`SourceFile.Divided`).
-/

namespace BuilderAudit

namespace Text

inductive Terminator
  | feed | returnFeed
  /-- The text goes no further. -/
  | nothing
  deriving DecidableEq, Repr

def Terminator.text : Terminator → List Char
  | feed => ['\n']
  | returnFeed => ['\r', '\n']
  | nothing => []

/-- A line with its end. -/
structure Piece where
  line : List Char
  terminator : Terminator
  deriving DecidableEq, Repr

def Piece.text (p : Piece) : List Char := p.line ++ p.terminator.text

/-- A line holds no line feed. In front of a line feed alone there is no carriage return, and a line without an end
holds something. -/
structure Piece.Proper (p : Piece) : Prop where
  feed : '\n' ∉ p.line
  bare : p.terminator = .feed → p.line.getLast? ≠ some '\r'
  nonempty : p.terminator = .nothing → p.line ≠ []

/-- A text divided into lines with their ends. Only the last line may be without one. -/
structure Division (cs : List Char) (pieces : List Piece) : Prop where
  text : cs = pieces.flatMap Piece.text
  proper : ∀ p ∈ pieces, p.Proper
  terminated : ∀ p ∈ pieces.dropLast, p.terminator ≠ .nothing

variable {cs line rest : List Char} {p : Piece} {pieces : List Piece}

/-! ## Pieces -/

def terminatedPiece (line : List Char) : Piece :=
  ⟨withoutReturn line, if line.getLast? = some '\r' then .returnFeed else .feed⟩

theorem terminatedPiece_return (line : List Char) : terminatedPiece (line ++ ['\r']) = ⟨line, .returnFeed⟩ := by
  rw [terminatedPiece, withoutReturn_concat, if_pos (by simp)]

theorem terminatedPiece_bare (h : line.getLast? ≠ some '\r') : terminatedPiece line = ⟨line, .feed⟩ := by
  rw [terminatedPiece, withoutReturn_of_getLast? h, if_neg h]

/-- A proper piece with an end is one that is made of the characters in front of a line feed. -/
theorem Piece.Proper.exists_terminatedPiece (h : p.Proper) (hend : p.terminator ≠ .nothing) :
    ∃ line, '\n' ∉ line ∧ p = terminatedPiece line ∧ p.text = line ++ ['\n'] := by
  obtain ⟨line, terminator⟩ := p
  cases terminator with
  | feed => exact ⟨line, h.feed, (terminatedPiece_bare (h.bare rfl)).symm, rfl⟩
  | returnFeed =>
      refine ⟨line ++ ['\r'], ?_, (terminatedPiece_return line).symm, ?_⟩
      · simpa using h.feed
      · rw [List.append_assoc]
        rfl
  | nothing => exact absurd rfl hend

theorem proper_terminatedPiece (h : '\n' ∉ line) :
    (terminatedPiece line).Proper ∧ (terminatedPiece line).terminator ≠ .nothing ∧
      (terminatedPiece line).text = line ++ ['\n'] := by
  by_cases hlast : line.getLast? = some '\r'
  · obtain ⟨init, rfl⟩ := List.getLast?_eq_some_iff.mp hlast
    rw [terminatedPiece_return]
    have hinit : '\n' ∉ init := fun hmem => h (List.mem_append_left _ hmem)
    refine ⟨⟨hinit, nofun, nofun⟩, nofun, ?_⟩
    rw [List.append_assoc]
    rfl
  · rw [terminatedPiece_bare hlast]
    exact ⟨⟨h, fun _ => hlast, nofun⟩, nofun, rfl⟩

theorem Piece.Proper.text_ne_nil (h : p.Proper) : p.text ≠ [] := by
  obtain ⟨line, terminator⟩ := p
  cases terminator with
  | feed => simp [Piece.text, Terminator.text]
  | returnFeed => simp [Piece.text, Terminator.text]
  | nothing => simpa [Piece.text, Terminator.text] using h.nonempty rfl

/-! ## Divisions -/

theorem division_cons_iff :
    Division cs (p :: pieces) ↔
      p.Proper ∧ (p.terminator = .nothing → pieces = []) ∧ ∃ rest, cs = p.text ++ rest ∧ Division rest pieces := by
  constructor
  · rintro ⟨htext, hproper, hterminated⟩
    rw [List.forall_mem_cons] at hproper
    rw [List.flatMap_cons] at htext
    cases pieces with
    | nil => exact ⟨hproper.1, fun _ => rfl, _, htext, rfl, hproper.2, by simp⟩
    | cons q pieces =>
        rw [List.dropLast_cons_cons, List.forall_mem_cons] at hterminated
        exact ⟨hproper.1, fun hend => absurd hend hterminated.1, _, htext, rfl, hproper.2, hterminated.2⟩
  · rintro ⟨hp, hlast, rest, rfl, rfl, hproper, hterminated⟩
    refine ⟨rfl, List.forall_mem_cons.mpr ⟨hp, hproper⟩, ?_⟩
    cases pieces with
    | nil => simp
    | cons q pieces =>
        rw [List.dropLast_cons_cons, List.forall_mem_cons]
        exact ⟨fun hend => List.cons_ne_nil _ _ (hlast hend), hterminated⟩

theorem division_nil_iff : Division [] pieces ↔ pieces = [] := by
  constructor
  · intro h
    cases pieces with
    | nil => rfl
    | cons p pieces =>
        obtain ⟨hp, -, rest, htext, -⟩ := division_cons_iff.mp h
        exact absurd (List.append_eq_nil_iff.mp htext.symm).1 hp.text_ne_nil
  · rintro rfl
    exact ⟨rfl, by simp, by simp⟩

/-- Without a line feed there is one line, and it has no end. -/
theorem division_unterminated_iff (hfeed : '\n' ∉ cs) (hne : cs ≠ []) :
    Division cs pieces ↔ pieces = [⟨cs, .nothing⟩] := by
  constructor
  · intro h
    cases pieces with
    | nil => exact absurd h.text hne
    | cons p pieces =>
        obtain ⟨hp, hlast, rest, rfl, hrest⟩ := division_cons_iff.mp h
        have hend : p.terminator = .nothing := by
          by_contra hend
          obtain ⟨line, -, -, htext⟩ := hp.exists_terminatedPiece hend
          exact hfeed (by simp [htext])
        obtain rfl := hlast hend
        obtain rfl := hrest.text
        obtain ⟨line, terminator⟩ := p
        obtain rfl : terminator = .nothing := hend
        simp [Piece.text, Terminator.text]
  · rintro rfl
    exact division_cons_iff.mpr ⟨⟨hfeed, nofun, fun _ => hne⟩, fun _ => rfl, [], by simp [Piece.text, Terminator.text],
      division_nil_iff.mpr rfl⟩

/-- What stands in front of the first line feed is the first line with its end. -/
theorem division_terminated_iff (hline : '\n' ∉ line) :
    Division (line ++ '\n' :: rest) pieces ↔ ∃ more, pieces = terminatedPiece line :: more ∧ Division rest more := by
  constructor
  · intro h
    cases pieces with
    | nil => exact absurd h.text (by simp)
    | cons p pieces =>
        obtain ⟨hp, hlast, after, htext, hafter⟩ := division_cons_iff.mp h
        have hend : p.terminator ≠ .nothing := by
          intro hend
          obtain rfl := hlast hend
          obtain rfl := hafter.text
          obtain ⟨line', terminator⟩ := p
          obtain rfl : terminator = .nothing := hend
          have hmem : '\n' ∈ line' := by
            rw [show line' = line ++ '\n' :: rest by simpa [Piece.text, Terminator.text] using htext.symm]
            simp
          exact hp.feed hmem
        obtain ⟨line', hline', rfl, hpiece⟩ := hp.exists_terminatedPiece hend
        rw [hpiece, List.append_assoc, List.singleton_append] at htext
        obtain ⟨rfl, rfl⟩ := append_feed_inj hline hline' htext
        exact ⟨pieces, rfl, hafter⟩
  · rintro ⟨more, rfl, hmore⟩
    obtain ⟨hproper, hend, htext⟩ := proper_terminatedPiece hline
    exact division_cons_iff.mpr ⟨hproper, fun h => absurd h hend, rest, by simp [htext], hmore⟩

/-- A text has one division, and its lines are those of the division. -/
theorem exists_division (cs : List Char) :
    ∃ pieces, lines cs = pieces.map Piece.line ∧ ∀ other, Division cs other ↔ other = pieces := by
  induction cs using line_induction with
  | nil => exact ⟨[], rfl, fun _ => division_nil_iff⟩
  | unterminated line hfeed hne =>
      exact ⟨[⟨line, .nothing⟩], lines_unterminated hfeed hne, fun _ => division_unterminated_iff hfeed hne⟩
  | terminated line rest hline ih =>
      obtain ⟨pieces, hlines, hunique⟩ := ih
      refine ⟨terminatedPiece line :: pieces, ?_, fun other => ?_⟩
      · rw [lines_terminated hline, hlines]
        rfl
      · simp only [division_terminated_iff hline, hunique, exists_eq_right]

/-! ## The number of lines -/

/-- Each line feed ends a line, and one more line is begun if the text does not end with one of them. -/
theorem length_lines (cs : List Char) :
    (lines cs).length = cs.count '\n' + if cs = [] ∨ cs.getLast? = some '\n' then 0 else 1 := by
  induction cs using line_induction with
  | nil => rfl
  | unterminated line hfeed hne =>
      have hlast : line.getLast? ≠ some '\n' := fun h => hfeed (List.mem_of_getLast? h)
      rw [lines_unterminated hfeed hne, List.count_eq_zero.mpr hfeed, if_neg (by simp [hne, hlast])]
      rfl
  | terminated line rest hline ih =>
      have hlast : (line ++ '\n' :: rest = [] ∨ (line ++ '\n' :: rest).getLast? = some '\n') ↔
          (rest = [] ∨ rest.getLast? = some '\n') := by
        cases rest with
        | nil => simp
        | cons c rest => simp [List.getLast?_append]
      rw [lines_terminated hline, List.length_cons, ih, List.count_append, List.count_eq_zero.mpr hline,
        List.count_cons_self]
      simp only [hlast]
      omega

end Text

/-! ## Source files -/

namespace SourceFile

open Text

/-- What a source file keeps of its content, which is divided into these pieces. -/
structure Divided (path : Path) (content : List Char) (pieces : List Piece) : Prop where
  division : Division content pieces
  unique : ∀ other, Division content other → other = pieces
  lines : (ofContent path content).lines = pieces.map fun p => String.ofList p.line
  length : (ofContent path content).lines.length =
    content.count '\n' + if content = [] ∨ content.getLast? = some '\n' then 0 else 1
  /-- Each character that is not part of a line end stands in its line, behind the same characters. -/
  kept : ∀ before c after, content = before ++ c :: after → c ≠ '\n' → ¬ (c = '\r' ∧ after.head? = some '\n') →
    ∃ front begun more, before = front ++ begun ∧ StartsLine front ∧ '\n' ∉ begun ∧
      (ofContent path content).lines[before.count '\n']? = some (String.ofList (begun ++ c :: more))

/-- **The lines of a source file are those of the only division of its content.** -/
theorem lines_divided (path : Path) (content : List Char) : ∃ pieces, Divided path content pieces := by
  obtain ⟨pieces, hlines, hunique⟩ := exists_division content
  refine ⟨pieces, (hunique pieces).mpr rfl, fun other => (hunique other).mp, ?_, ?_, ?_⟩
  · rw [ofContent, hlines, List.map_map]
    rfl
  · rw [ofContent, List.length_map]
    exact length_lines content
  · rintro before c after rfl hfeed hreturn
    have hinside : Inside (before ++ c :: after) [c] before after := by
      refine ⟨rfl, by simpa using Ne.symm hfeed, ?_⟩
      simpa using hreturn
    obtain ⟨front, begun, more, behind, rfl, hbegun, hline⟩ := hinside.exists_lineAt (List.cons_ne_nil _ _)
    refine ⟨front, begun, more, rfl, hline.starts, hbegun, ?_⟩
    rw [ofContent, List.getElem?_map, getElem?_lines_iff.mpr ⟨front, behind, hline⟩]
    rfl

/-- A carriage return goes with a line feed behind it only. -/
example : (ofContent ⟨[0x61]⟩ "a\r\r\n\n\rb\r".toList).lines = ["a\r", "", "\rb\r"] := by decide +kernel

end SourceFile

end BuilderAudit
