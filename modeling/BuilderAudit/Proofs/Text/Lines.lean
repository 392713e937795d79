import BuilderAudit.Text.Basic
import Mathlib

/-!
# Where the lines of a text stand

A line starts at the start of the text or behind a line feed. It holds no line feed, and it ends where the text ends, or
in front of a line feed, or in front of a carriage return with a line feed.

* `line_induction` : a text is empty, or a line without an end, or a line with its end in front of another text;
* `LineAt` : a line with its number and with all that stands around it;
* `getElem?_lines_iff` : the lines of a text, by their numbers;
* `lines_append` : the lines of a text that is cut where a line starts;
* `FirstLine` : the first line of a kind (`firstLine_iff`);
* `HasLine` : the numbers of the lines that a text has (`exists_lineAt_iff`);
* `Inside` : a text that stands within a line of another one (`LineAt.inside`, `Inside.exists_lineAt`).
-/

namespace BuilderAudit.Text

variable {cs line rest before behind tail part : List Char} {i : Nat}

/-! ## Line feeds -/

/-- The first line feed divides a text in one way. -/
theorem append_feed_inj {a b s t : List Char} (ha : '\n' ∉ a) (hb : '\n' ∉ b) (h : a ++ '\n' :: s = b ++ '\n' :: t) :
    a = b ∧ s = t := by
  have hfront : ∀ {front : List Char} (back : List Char), '\n' ∉ front →
      (front ++ '\n' :: back).takeWhile (· != '\n') = front := by
    intro front back hfront
    have hall : ∀ c ∈ front, (c != '\n') = true := by
      intro c hc
      simpa using fun heq : c = '\n' => hfront (heq ▸ hc)
    rw [List.takeWhile_append_of_pos hall]
    simp
  have hab : a = b := by rw [← hfront s ha, h, hfront t hb]
  subst hab
  exact ⟨rfl, (List.cons.inj (List.append_cancel_left h)).2⟩

/-- A text is empty, or a line without an end, or a line with its end in front of another text. -/
@[elab_as_elim]
theorem line_induction {motive : List Char → Prop} (nil : motive [])
    (unterminated : ∀ line, '\n' ∉ line → line ≠ [] → motive line)
    (terminated : ∀ line rest, '\n' ∉ line → motive rest → motive (line ++ '\n' :: rest)) (cs : List Char) :
    motive cs := by
  induction hn : cs.length using Nat.strongRecOn generalizing cs with
  | _ n ih =>
      by_cases hfeed : '\n' ∈ cs
      · obtain ⟨line, rest, rfl, hline⟩ := List.eq_append_cons_of_mem hfeed
        refine terminated line rest hline (ih rest.length ?_ rest rfl)
        rw [← hn, List.length_append, List.length_cons]
        omega
      · by_cases hne : cs = []
        · exact hne ▸ nil
        · exact unterminated cs hfeed hne

/-! ## The lines one by one -/

/-- What is left of the characters in front of a line feed. -/
def withoutReturn (cs : List Char) : List Char := (dropReturn cs.reverse).reverse

@[simp] theorem withoutReturn_concat (line : List Char) : withoutReturn (line ++ ['\r']) = line := by
  simp [withoutReturn, dropReturn]

theorem withoutReturn_of_getLast? (h : line.getLast? ≠ some '\r') : withoutReturn line = line := by
  rcases List.eq_nil_or_concat line with rfl | ⟨init, last, rfl⟩
  · rfl
  · have hlast : last ≠ '\r' := by simpa using h
    simp [withoutReturn, dropReturn, hlast]

theorem linesFrom_append (h : '\n' ∉ line) (begun rest : List Char) :
    linesFrom begun (line ++ rest) = linesFrom (line.reverse ++ begun) rest := by
  induction line generalizing begun with
  | nil => rfl
  | cons c line ih =>
      rw [List.mem_cons, not_or] at h
      rw [List.cons_append, linesFrom, if_neg (Ne.symm h.1), ih h.2, List.reverse_cons, List.append_assoc,
        List.singleton_append]

theorem lines_unterminated (h : '\n' ∉ line) (hne : line ≠ []) : lines line = [line] := by
  have hlines := linesFrom_append h [] []
  rw [List.append_nil, List.append_nil] at hlines
  rw [lines, hlines, linesFrom, if_neg (by simpa using hne), List.reverse_reverse]

theorem lines_terminated (h : '\n' ∉ line) (rest : List Char) :
    lines (line ++ '\n' :: rest) = withoutReturn line :: lines rest := by
  rw [lines, linesFrom_append h, linesFrom, if_pos rfl, List.append_nil]
  rfl

/-! ## Lines and what stands around them -/

def StartsLine (before : List Char) : Prop := before = [] ∨ before.getLast? = some '\n'

/-- What may stand behind a line. -/
inductive LineEnd (line : List Char) : List Char → Prop
  /-- The text ends here. -/
  | text (h : line ≠ []) : LineEnd line []
  | feed (rest : List Char) (h : line.getLast? ≠ some '\r') : LineEnd line ('\n' :: rest)
  | returnFeed (rest : List Char) : LineEnd line ('\r' :: '\n' :: rest)

/-- The line with the number `i`, counted from zero, and what stands before it and behind it. -/
structure LineAt (cs : List Char) (i : Nat) (before line behind : List Char) : Prop where
  text : cs = before ++ (line ++ behind)
  starts : StartsLine before
  number : before.count '\n' = i
  feed : '\n' ∉ line
  ends : LineEnd line behind

theorem eq_nil_of_startsLine (h : StartsLine before) (hfeed : '\n' ∉ before) : before = [] :=
  h.resolve_right fun hlast => hfeed (List.mem_of_getLast? hlast)

theorem startsLine_behind_feed (h : StartsLine (line ++ '\n' :: rest)) : StartsLine rest := by
  by_cases hne : rest = []
  · exact Or.inl hne
  · have hlast := h.resolve_left (by simp)
    rw [List.append_cons, List.getLast?_append_of_ne_nil _ hne] at hlast
    exact Or.inr hlast

/-- Behind the first line there are the lines of the rest. -/
theorem LineAt.of_feed_mem {first : List Char} (hfirst : '\n' ∉ first)
    (h : LineAt (first ++ '\n' :: rest) i before line behind) (hfeed : '\n' ∈ before) :
    ∃ j before', i = j + 1 ∧ before = first ++ '\n' :: before' ∧ LineAt rest j before' line behind := by
  obtain ⟨htext, hstarts, hnumber, hline, hends⟩ := h
  obtain ⟨first', before', rfl, hfirst'⟩ := List.eq_append_cons_of_mem hfeed
  rw [List.append_assoc, List.cons_append] at htext
  obtain ⟨rfl, rfl⟩ := append_feed_inj hfirst hfirst' htext
  rw [List.count_append, List.count_cons_self, List.count_eq_zero.mpr hfirst, Nat.zero_add] at hnumber
  exact ⟨before'.count '\n', before', hnumber.symm, rfl, rfl, startsLine_behind_feed hstarts, rfl, hline, hends⟩

theorem LineAt.behind_first {first : List Char} (hfirst : '\n' ∉ first) (h : LineAt rest i before line behind) :
    LineAt (first ++ '\n' :: rest) (i + 1) (first ++ '\n' :: before) line behind := by
  obtain ⟨rfl, hstarts, rfl, hline, hends⟩ := h
  refine ⟨by simp, Or.inr ?_, ?_, hline, hends⟩
  · rw [List.append_cons]
    rcases hstarts with rfl | hlast
    · simp
    · rw [List.getLast?_append, hlast]
      rfl
  · rw [List.count_append, List.count_cons_self, List.count_eq_zero.mpr hfirst, Nat.zero_add]

/-- The first line. -/
theorem lineAt_first_iff {first : List Char} (hfirst : '\n' ∉ first) :
    (∃ behind, LineAt (first ++ '\n' :: rest) 0 [] line behind) ↔ line = withoutReturn first := by
  constructor
  · rintro ⟨behind, htext, -, -, hline, hends⟩
    rw [List.nil_append] at htext
    cases hends with
    | text _ =>
        rw [List.append_nil] at htext
        exact absurd (htext ▸ by simp) hline
    | feed rest' hlast =>
        obtain ⟨rfl, -⟩ := append_feed_inj hfirst hline htext
        exact (withoutReturn_of_getLast? hlast).symm
    | returnFeed rest' =>
        have hreturn : '\n' ∉ line ++ ['\r'] := by simpa using hline
        obtain ⟨rfl, -⟩ := append_feed_inj hfirst hreturn (htext.trans (List.append_cons line '\r' _))
        exact (withoutReturn_concat line).symm
  · rintro rfl
    by_cases hlast : first.getLast? = some '\r'
    · obtain ⟨init, rfl⟩ := List.getLast?_eq_some_iff.mp hlast
      have hinit : '\n' ∉ init := fun h => hfirst (List.mem_append_left _ h)
      rw [withoutReturn_concat]
      exact ⟨_, by simp, Or.inl rfl, rfl, hinit, .returnFeed rest⟩
    · rw [withoutReturn_of_getLast? hlast]
      exact ⟨_, by simp, Or.inl rfl, rfl, hfirst, .feed rest hlast⟩

/-- **The lines of a text, by their numbers.** -/
theorem getElem?_lines_iff : (lines cs)[i]? = some line ↔ ∃ before behind, LineAt cs i before line behind := by
  induction cs using line_induction generalizing i with
  | nil =>
      constructor
      · intro h
        cases h
      · rintro ⟨before, behind, htext, -, -, -, hends⟩
        have hempty := List.append_eq_nil_iff.mp (List.append_eq_nil_iff.mp htext.symm).2
        rw [hempty.1, hempty.2] at hends
        cases hends with
        | text h => exact absurd rfl h
  | unterminated cs hfeed hne =>
      rw [lines_unterminated hfeed hne]
      constructor
      · intro h
        obtain ⟨rfl, rfl⟩ : i = 0 ∧ cs = line := by simpa [List.getElem?_singleton] using h
        exact ⟨[], [], by simp, Or.inl rfl, rfl, hfeed, .text hne⟩
      · rintro ⟨before, behind, rfl, hstarts, rfl, -, hends⟩
        simp only [List.mem_append, not_or] at hfeed
        obtain rfl := eq_nil_of_startsLine hstarts hfeed.1
        cases hends with
        | text _ => simp
        | feed => simp at hfeed
        | returnFeed => simp at hfeed
  | terminated first rest hfirst ih =>
      rw [lines_terminated hfirst]
      constructor
      · intro h
        cases i with
        | zero =>
            obtain rfl : withoutReturn first = line := by simpa using h
            exact ⟨[], (lineAt_first_iff hfirst).mpr rfl⟩
        | succ i =>
            obtain ⟨before, behind, hline⟩ := ih.mp h
            exact ⟨_, _, hline.behind_first hfirst⟩
      · rintro ⟨before, behind, h⟩
        by_cases hfeed : '\n' ∈ before
        · obtain ⟨j, before', rfl, -, hline⟩ := h.of_feed_mem hfirst hfeed
          exact ih.mpr ⟨before', behind, hline⟩
        · obtain rfl := eq_nil_of_startsLine h.starts hfeed
          obtain rfl : 0 = i := h.number
          rw [(lineAt_first_iff hfirst).mp ⟨behind, h⟩]
          rfl

/-! ## Texts in two parts -/

/-- A text that is cut where a line starts has the lines of both parts. -/
theorem lines_append (h : StartsLine cs) (more : List Char) : lines (cs ++ more) = lines cs ++ lines more := by
  induction cs using line_induction with
  | nil => rfl
  | unterminated line hfeed hne => exact absurd (eq_nil_of_startsLine h hfeed) hne
  | terminated line rest hline ih =>
      rw [List.append_assoc, List.cons_append, lines_terminated hline, lines_terminated hline,
        ih (startsLine_behind_feed h), List.cons_append]

/-! ## The first line of a kind -/

/-- `line` is the first line of the text for which `p` holds. -/
def FirstLine (p : List Char → Prop) (cs line : List Char) : Prop :=
  ∃ i before behind, LineAt cs i before line behind ∧ p line ∧
    ∀ j before' line' behind', j < i → LineAt cs j before' line' behind' → ¬ p line'

theorem FirstLine.holds {p : List Char → Prop} (h : FirstLine p cs line) : p line := by
  obtain ⟨i, before, behind, -, hp, -⟩ := h
  exact hp

theorem FirstLine.mono {p q : List Char → Prop} (h : FirstLine p cs line) (hpq : ∀ line, q line → p line)
    (hq : q line) :
    FirstLine q cs line := by
  obtain ⟨i, before, behind, hline, -, hfirst⟩ := h
  exact ⟨i, before, behind, hline, hq, fun j before' line' behind' hj hline' hq' =>
    hfirst j before' line' behind' hj hline' (hpq line' hq')⟩

theorem firstLine_iff {p : List Char → Prop} :
    FirstLine p cs line ↔ ∃ front back, lines cs = front ++ line :: back ∧ p line ∧ ∀ line' ∈ front, ¬ p line' := by
  constructor
  · rintro ⟨i, before, behind, hline, hp, hfirst⟩
    obtain ⟨hi, hget⟩ := List.getElem?_eq_some_iff.mp (getElem?_lines_iff.mpr ⟨before, behind, hline⟩)
    refine ⟨(lines cs).take i, (lines cs).drop (i + 1), ?_, hp, ?_⟩
    · rw [← hget, ← List.drop_eq_getElem_cons hi, List.take_append_drop]
    · intro line' hmem
      obtain ⟨j, hj, rfl⟩ := List.mem_take_iff_getElem.mp hmem
      obtain ⟨before', behind', hline'⟩ :=
        getElem?_lines_iff.mp (List.getElem?_eq_getElem (show j < (lines cs).length by omega))
      exact hfirst j before' _ behind' (by omega) hline'
  · rintro ⟨front, back, hlines, hp, hfirst⟩
    obtain ⟨before, behind, hline⟩ :=
      getElem?_lines_iff.mp (show (lines cs)[front.length]? = some line by simp [hlines])
    refine ⟨front.length, before, behind, hline, hp, ?_⟩
    intro j before' line' behind' hj hline'
    have hget := getElem?_lines_iff.mpr ⟨before', behind', hline'⟩
    rw [hlines, List.getElem?_append_left hj] at hget
    exact hfirst line' (List.mem_of_getElem? hget)

/-! ## Which lines there are -/

/-- The text has a line with the number `k`, counted from one: it is not empty and `k` is one, or the line feed with the
number `k - 1` is not the last character. -/
inductive HasLine (cs : List Char) : Nat → Prop
  | first (h : cs ≠ []) : HasLine cs 1
  | next (before after : List Char) (text : cs = before ++ '\n' :: after) (h : after ≠ []) :
      HasLine cs (before.count '\n' + 2)

/-- What was begun without a line feed goes on to the end of its line, if it does not end within a line end. -/
theorem exists_lineEnd (begun : List Char) {after : List Char} (hfeed : '\n' ∉ begun) (hne : begun ++ after ≠ [])
    (hends : ¬ (begun.getLast? = some '\r' ∧ after.head? = some '\n')) :
    ∃ rest behind, after = rest ++ behind ∧ '\n' ∉ begun ++ rest ∧ LineEnd (begun ++ rest) behind := by
  by_cases hafter : '\n' ∈ after
  · obtain ⟨rest, more, rfl, hrest⟩ := List.eq_append_cons_of_mem hafter
    by_cases hlast : (begun ++ rest).getLast? = some '\r'
    · -- the carriage return is not in `begun`
      have hnonempty : rest ≠ [] := by
        rintro rfl
        exact hends ⟨by simpa using hlast, rfl⟩
      rw [List.getLast?_append_of_ne_nil _ hnonempty] at hlast
      obtain ⟨init, rfl⟩ := List.getLast?_eq_some_iff.mp hlast
      have hinit : '\n' ∉ init := fun h => hrest (List.mem_append_left _ h)
      exact ⟨init, '\r' :: '\n' :: more, by simp, by simp [hfeed, hinit], .returnFeed more⟩
    · exact ⟨rest, '\n' :: more, rfl, by simp [hfeed, hrest], .feed more hlast⟩
  · exact ⟨after, [], by simp, by simp [hfeed, hafter], .text hne⟩

theorem exists_startsLine (before : List Char) :
    ∃ front begun, before = front ++ begun ∧ StartsLine front ∧ '\n' ∉ begun := by
  induction before using List.reverseRecOn with
  | nil => exact ⟨[], [], rfl, Or.inl rfl, by simp⟩
  | append_singleton before c ih =>
      by_cases hc : c = '\n'
      · subst hc
        exact ⟨before ++ ['\n'], [], by simp, Or.inr (by simp), by simp⟩
      · obtain ⟨front, begun, rfl, hstarts, hbegun⟩ := ih
        exact ⟨front, begun ++ [c], by simp, hstarts, by simp [hbegun, Ne.symm hc]⟩

theorem exists_lineAt_iff : (∃ before line behind, LineAt cs i before line behind) ↔ HasLine cs (i + 1) := by
  constructor
  · rintro ⟨before, line, behind, rfl, hstarts, rfl, -, hends⟩
    have hne : line ++ behind ≠ [] := by
      cases hends with
      | text h => simpa using h
      | feed => simp
      | returnFeed => simp
    rcases hstarts with rfl | hlast
    · exact .first hne
    · obtain ⟨init, rfl⟩ := List.getLast?_eq_some_iff.mp hlast
      have hnext := HasLine.next init (line ++ behind) rfl hne
      rw [List.append_assoc, List.singleton_append, List.count_append, List.count_singleton_self]
      exact hnext
  · intro h
    generalize hk : i + 1 = k at h
    cases h with
    | first hne =>
        obtain ⟨line, behind, rfl, hfeed, hends⟩ := exists_lineEnd [] (by simp) hne (by simp)
        exact ⟨[], line, behind, rfl, Or.inl rfl, (Nat.succ.inj hk).symm, hfeed, hends⟩
    | next before after htext hne =>
        obtain ⟨line, behind, rfl, hfeed, hends⟩ := exists_lineEnd [] (by simp) hne (by simp)
        refine ⟨before ++ ['\n'], line, behind, by simpa using htext, Or.inr (by simp), ?_, hfeed, hends⟩
        rw [List.count_append, List.count_singleton_self]
        exact (Nat.succ.inj hk).symm

/-! ## Texts within a line -/

/-- `part` stands in the text, behind `before` and in front of `after`. It holds no line feed, and its last character is
not the carriage return of a line end. -/
structure Inside (cs part before after : List Char) : Prop where
  text : cs = before ++ (part ++ after)
  feed : '\n' ∉ part
  ends : ¬ (part.getLast? = some '\r' ∧ after.head? = some '\n')

/-- A part of a line stands within it. -/
theorem LineAt.inside {u w : List Char} (h : LineAt cs i before (u ++ (part ++ w)) behind) :
    Inside cs part (before ++ u) (w ++ behind) ∧ (before ++ u).count '\n' = i := by
  obtain ⟨rfl, -, rfl, hfeed, hends⟩ := h
  simp only [List.mem_append, not_or] at hfeed
  refine ⟨⟨by simp, hfeed.2.1, ?_⟩, ?_⟩
  · rintro ⟨hlast, hhead⟩
    cases w with
    | cons c w =>
        obtain rfl : c = '\n' := by simpa using hhead
        exact hfeed.2.2 List.mem_cons_self
    | nil =>
        cases hends with
        | text => simp at hhead
        | feed rest h => exact h (by simp [List.getLast?_append, hlast])
        | returnFeed => simp at hhead
  · rw [List.count_append, List.count_eq_zero.mpr hfeed.1, Nat.add_zero]

/-- What stands within a line is a part of it. -/
theorem Inside.exists_lineAt {after : List Char} (h : Inside cs part before after) (hne : part ≠ []) :
    ∃ front u w behind, before = front ++ u ∧ '\n' ∉ u ∧
      LineAt cs (before.count '\n') front (u ++ (part ++ w)) behind := by
  obtain ⟨rfl, hfeed, hends⟩ := h
  obtain ⟨front, u, rfl, hstarts, hu⟩ := exists_startsLine before
  have hbegun : '\n' ∉ u ++ part := by simp [hu, hfeed]
  obtain ⟨w, behind, rfl, hline, hend⟩ := exists_lineEnd _ hbegun (by simp [hne]) (by
    rw [List.getLast?_append_of_ne_nil _ hne]
    exact hends)
  rw [List.append_assoc] at hline hend
  refine ⟨front, u, w, behind, rfl, hu, by simp, hstarts, ?_, hline, hend⟩
  rw [List.count_append, List.count_eq_zero.mpr hu, Nat.add_zero]

theorem eq_nil_of_startsLine_append {front u : List Char} (h : StartsLine (front ++ u)) (hu : '\n' ∉ u) : u = [] := by
  by_contra hne
  rcases h with hnil | hlast
  · exact hne (List.append_eq_nil_iff.mp hnil).2
  · rw [List.getLast?_append_of_ne_nil _ hne] at hlast
    exact hu (List.mem_of_getLast? hlast)

end BuilderAudit.Text
