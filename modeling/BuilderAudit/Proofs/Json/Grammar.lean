import BuilderAudit.Proofs.Json.Value

/-!
# The texts of JSON values

The same value can be written in many ways: with blanks between its words, and with each character of a string as itself
or as an escape. `Text` holds all texts of a value.

* `Padded`, `Begun`, `Listed` : blanks around something, and elements with commas between them;
* `Text` : the texts of a value;
* `skipSpace_begun` : the blanks in front of elements can be passed over;
* `ListLoop` : a loop that reads elements one after the other, which takes all their texts (`ListLoop.begun`,
  `ListLoop.listed`);
* `text_compact`, `text_pretty` : what is written for a value, on one line or on several, is a text of it.
-/

namespace BuilderAudit.Json

/-! ## Blanks and commas -/

/-- A text with blanks around it. -/
inductive Padded (text : List Char → Prop) : List Char → Prop
  | mk {before t after : List Char} (hbefore : Blank before) (h : text t) (hafter : Blank after) :
      Padded text (before ++ t ++ after)

/-- Texts of several things, with a comma behind each of them. -/
inductive Begun : List (List Char → Prop) → List Char → Prop
  | nil : Begun [] []
  | cons {text : List Char → Prop} {texts : List (List Char → Prop)} {t more : List Char} (h : Padded text t)
      (hmore : Begun texts more) : Begun (text :: texts) (t ++ ',' :: more)

/-- Texts of several things, with commas between them, and a closing sign. -/
inductive Listed (close : Char) : List (List Char → Prop) → List Char → Prop
  | nil {blanks : List Char} (h : Blank blanks) : Listed close [] (blanks ++ [close])
  | snoc {text : List Char → Prop} {texts : List (List Char → Prop)} {front t : List Char} (hfront : Begun texts front)
      (h : Padded text t) : Listed close (texts ++ [text]) (front ++ t ++ [close])

section Lists

variable {text next : List Char → Prop} {texts : List (List Char → Prop)} {close : Char}
  {t more front blanks : List Char}

theorem Padded.of (h : text t) : Padded text t := by
  have hpadded := Padded.mk .nil h .nil
  rwa [List.nil_append, List.append_nil] at hpadded

theorem Listed.cons (h : Padded text t) (hmore : Listed close (next :: texts) more) :
    Listed close (text :: next :: texts) (t ++ ',' :: more) := by
  generalize hall : next :: texts = all at hmore
  cases hmore with
  | nil => cases hall
  | snoc hfront hlast =>
      have hlisted : Listed close (text :: _ ++ [_]) (_ ++ [close]) := .snoc (.cons h hfront) hlast
      rw [List.cons_append, List.append_assoc, List.append_assoc] at hlisted
      rw [List.append_assoc]
      exact hlisted

/-- A list is empty, or its last element follows on those that have been begun. -/
theorem Listed.of_map {α : Type} {kind : α → List Char → Prop} {xs : List α} (h : Listed close (xs.map kind) t) :
    (xs = [] ∧ ∃ blanks, Blank blanks ∧ t = blanks ++ [close]) ∨
      ∃ init last front before u after, xs = init ++ [last] ∧ Begun (init.map kind) front ∧ Blank before ∧
        kind last u ∧ Blank after ∧ t = front ++ (before ++ (u ++ (after ++ [close]))) := by
  generalize hkinds : xs.map kind = kinds at h
  cases h with
  | nil hblanks => exact Or.inl ⟨List.map_eq_nil_iff.mp hkinds, _, hblanks, rfl⟩
  | snoc hfront hlast =>
      obtain ⟨init, ls, rfl, rfl, hls⟩ := List.map_eq_append_iff.mp hkinds
      obtain ⟨last, rfl, rfl⟩ := List.map_eq_singleton_iff.mp hls
      obtain ⟨hbefore, hu, hafter⟩ := hlast
      exact Or.inr ⟨init, last, _, _, _, _, rfl, hfront, hbefore, hu, hafter, by simp only [List.append_assoc]⟩

theorem skipSpace_listed_nil (hclose : isSpace close = false) (h : Listed close [] t) (rest : List Char) :
    skipSpace (t ++ rest) = close :: rest := by
  have hmap : Listed close (([] : List Unit).map fun _ _ => True) t := h
  obtain ⟨-, blanks, hblanks, rfl⟩ | ⟨init, last, _, _, _, _, hnil, -⟩ := hmap.of_map
  · rw [List.append_assoc, List.singleton_append, skipSpace_append hblanks, skipSpace_of_head hclose]
  · simp at hnil

theorem of_listed_singleton (h : Listed close [text] t) :
    ∃ before u after, Blank before ∧ text u ∧ Blank after ∧ t = before ++ (u ++ (after ++ [close])) := by
  have hmap : Listed close ([()].map fun _ => text) t := h
  obtain ⟨hnil, -⟩ | ⟨init, last, front, before, u, after, hall, hfront, hbefore, hu, hafter, rfl⟩ := hmap.of_map
  · cases hnil
  · obtain ⟨rfl, -⟩ := List.append_eq_singleton_iff.mp hall.symm |>.resolve_right (by simp)
    cases hfront
    exact ⟨before, u, after, hbefore, hu, hafter, rfl⟩

end Lists

/-! ## Reading lists -/

section Loops

variable {α σ ρ : Type} {kind : α → List Char → Prop} {xs : List α} {close : Char}
  {t more front blanks inner : List Char}

/-- What passes the blanks in front of elements comes to elements again, or to what is behind them. -/
theorem skipSpace_begun (hstart : ∀ x t, kind x t → StartsElement close t) (hfront : Begun (xs.map kind) front)
    (hblanks : Blank blanks) (hmore : StartsElement close more) :
    ∃ front' blanks', Begun (xs.map kind) front' ∧ Blank blanks' ∧
      skipSpace (front ++ (blanks ++ more)) = front' ++ (blanks' ++ more) ∧
      StartsElement close (front' ++ (blanks' ++ more)) := by
  cases xs with
  | nil =>
      cases hfront
      obtain ⟨c, more, rfl, hspace, hne⟩ := hmore
      refine ⟨[], [], .nil, .nil, ?_, c, more, rfl, hspace, hne⟩
      rw [List.nil_append, skipSpace_append hblanks, skipSpace_of_head hspace]
      rfl
  | cons x xs =>
      rw [List.map_cons] at hfront ⊢
      cases hfront with
      | cons h hrest =>
          obtain @⟨before, t, after, hbefore, ht, hafter⟩ := h
          obtain ⟨c, inner, rfl, hspace, hne⟩ := hstart x _ ht
          refine ⟨_, blanks, .cons (.mk .nil ht hafter) hrest, hblanks, ?_, c, _, rfl, hspace, hne⟩
          simp only [List.append_assoc, List.nil_append, List.cons_append, skipSpace_append hbefore,
            skipSpace_of_head hspace]

/-- A loop that reads the elements of a list one after the other: `step` is what an element does to its state, `out`
what comes out behind the closing sign, and `fit` tells which elements may come. -/
structure ListLoop (close : Char) (kind : α → List Char → Prop) (loop : σ → List Char → ρ) (step : σ → α → σ)
    (out : σ → List Char → ρ) (fit : σ → List α → Prop) : Prop where
  ne_comma : close ≠ ','
  notSpace : isSpace close = false
  starts : ∀ x t, kind x t → StartsElement close t
  fit_tail : ∀ s x xs, fit s (x :: xs) → fit (step s x) xs
  reads : ∀ s x xs, fit s (x :: xs) → ∀ t, Padded (kind x) t → ∃ after, Blank after ∧ ∀ rest rest',
    (next? close (after ++ rest) = some (false, rest') → loop s (t ++ rest) = loop (step s x) rest') ∧
    (next? close (after ++ rest) = some (true, rest') → loop s (t ++ rest) = out (step s x) rest')

namespace ListLoop

variable {loop : σ → List Char → ρ} {step : σ → α → σ} {out : σ → List Char → ρ} {fit : σ → List α → Prop}
  (h : ListLoop close kind loop step out fit)
include h

theorem fit_append {init : List α} {s : σ} (hfit : fit s (init ++ xs)) : fit (init.foldl step s) xs := by
  induction init generalizing s with
  | nil => exact hfit
  | cons x init ih => exact ih (h.fit_tail s x _ hfit)

/-- The elements in front of a text are read, and the text is left with some blanks. -/
theorem begun {init : List α} {s : σ} (hfit : fit s (init ++ xs)) (hfront : Begun (init.map kind) front)
    (hblanks : Blank blanks) (hmore : StartsElement close more) :
    ∃ blanks', Blank blanks' ∧ loop s (front ++ (blanks ++ more)) = loop (init.foldl step s) (blanks' ++ more) := by
  induction init generalizing s front blanks with
  | nil =>
      cases hfront
      exact ⟨blanks, hblanks, rfl⟩
  | cons x init ih =>
      rw [List.map_cons] at hfront
      cases hfront with
      | @cons _ _ t front ht hfront =>
          obtain ⟨after, hafter, hread⟩ := h.reads s x _ hfit t ht
          obtain ⟨front', blanks', hfront', hblanks', hskip, hstarts⟩ := skipSpace_begun h.starts hfront hblanks hmore
          have hnext := next?_comma hafter h.ne_comma (hskip ▸ hstarts)
          obtain ⟨blanks'', hblanks'', hrest⟩ := ih (h.fit_tail s x _ hfit) hfront' hblanks'
          refine ⟨blanks'', hblanks'', ?_⟩
          rw [List.append_assoc, List.cons_append, (hread _ _).1 hnext, hskip, hrest]
          rfl

/-- All elements up to the closing sign are read. -/
theorem listed {s : σ} (hfit : fit s xs) (hne : xs ≠ []) (hlist : Listed close (xs.map kind) inner) (rest : List Char) :
    StartsElement close (skipSpace (inner ++ rest)) ∧
      loop s (skipSpace (inner ++ rest)) = out (xs.foldl step s) rest := by
  obtain ⟨hnil, -⟩ | ⟨init, last, front, before, u, after, rfl, hfront, hbefore, hu, hafter, rfl⟩ := hlist.of_map
  · exact absurd hnil hne
  · have hstart : StartsElement close (u ++ (after ++ close :: rest)) := by
      obtain ⟨c, u, rfl, hspace, hclose⟩ := h.starts last u hu
      exact ⟨c, _, rfl, hspace, hclose⟩
    have hall : front ++ (before ++ (u ++ (after ++ [close]))) ++ rest =
        front ++ (before ++ (u ++ (after ++ close :: rest))) := by
      simp only [List.append_assoc, List.singleton_append]
    obtain ⟨front', before', hfront', hbefore', hskip, hstarts⟩ := skipSpace_begun h.starts hfront hbefore hstart
    obtain ⟨blanks, hblanks, hbegun⟩ := h.begun hfit hfront' hbefore' hstart
    obtain ⟨after', hafter', hread⟩ := h.reads _ last [] (h.fit_append hfit) _ (.mk hblanks hu hafter)
    have hlast := (hread (close :: rest) rest).2 (next?_close hafter' h.notSpace rest)
    rw [List.append_assoc, List.append_assoc] at hlast
    rw [hall, hskip, hbegun, hlast, List.foldl_append]
    exact ⟨hstarts, rfl⟩

end ListLoop

end Loops

/-! ## Values -/

inductive Quoted (s : String) : List Char → Prop
  | mk {t : List Char} (h : StringText s.toList t) : Quoted s ('"' :: t ++ ['"'])

inductive Keyed (key : String) (value : List Char → Prop) : List Char → Prop
  | mk {k before after v : List Char} (hk : Quoted key k) (hbefore : Blank before) (hafter : Blank after)
      (hv : value v) :
      Keyed key value (k ++ before ++ ':' :: (after ++ v))

mutual

def Text : Json → List Char → Prop
  | null => (· = "null".toList)
  | bool b => (· = boolText b)
  | number n => (· = decimal n)
  | string s => Quoted s
  | array items => fun t => ∃ inner, t = '[' :: inner ∧ Listed ']' (itemTexts items) inner
  | object members => fun t => ∃ inner, t = '{' :: inner ∧ Listed '}' (memberTexts members) inner
termination_by structural j => j

def itemTexts : List Json → List (List Char → Prop)
  | [] => []
  | item :: items => Text item :: itemTexts items
termination_by structural items => items

def memberTexts : List (String × Json) → List (List Char → Prop)
  | [] => []
  | (key, value) :: members => Keyed key (Text value) :: memberTexts members
termination_by structural members => members

end

theorem itemTexts_eq_map (items : List Json) : itemTexts items = items.map Text := by
  induction items with
  | nil => rfl
  | cons item items ih => rw [itemTexts, ih, List.map_cons]

theorem memberTexts_eq_map (members : List (String × Json)) :
    memberTexts members = members.map fun m => Keyed m.1 (Text m.2) := by
  induction members with
  | nil => rfl
  | cons m members ih => rw [memberTexts, ih, List.map_cons]

section Starts

variable {close : Char} {t : List Char}

theorem quoted_starts (hclose : close ≠ '"') {s : String} (h : Quoted s t) : StartsElement close t := by
  cases h with
  | mk => exact ⟨'"', _, rfl, by decide, hclose.symm⟩

theorem keyed_starts (hclose : close ≠ '"') {key : String} {value : List Char → Prop} (h : Keyed key value t) :
    StartsElement close t := by
  obtain ⟨hk, -, -, -⟩ := h
  obtain ⟨c, more, rfl, hspace, hne⟩ := quoted_starts hclose hk
  exact ⟨c, _, rfl, hspace, hne⟩

theorem text_starts {j : Json} (h : Text j t) : StartsElement ']' t := by
  cases j with
  | null => exact ⟨'n', _, h, by decide, by decide⟩
  | bool b => cases b <;> exact ⟨_, _, h, by decide, by decide⟩
  | number n =>
      obtain ⟨c, more, hc, hdigit⟩ := decimal_starts n
      exact ⟨c, more, h.trans hc, isSpace_of_isDigit hdigit, ne_of_isDigit hdigit rfl⟩
  | string s => exact quoted_starts (by decide) h
  | array items =>
      obtain ⟨inner, rfl, -⟩ := h
      exact ⟨'[', inner, rfl, by decide, by decide⟩
  | object members =>
      obtain ⟨inner, rfl, -⟩ := h
      exact ⟨'{', inner, rfl, by decide, by decide⟩

end Starts

/-! ## What is written -/

theorem quoted_text (s : String) : Quoted s (quoted s.toList) := .mk (stringText_flatMap s.toList)

section Written

variable {α : Type} {write : α → List Char} {text : α → List Char → Prop} {close : Char} {indent closing : List Char}

/-- Elements that are written one after the other are a list of their texts. -/
theorem listed_chain (hindent : Blank indent) (hclosing : Blank closing) {xs : List α}
    (h : ∀ x ∈ xs, text x (write x)) :
    Listed close (xs.map text) (chain write indent (closing ++ [close]) xs) := by
  induction xs with
  | nil => exact .nil hclosing
  | cons x xs ih =>
      rw [List.forall_mem_cons] at h
      cases xs with
      | nil =>
          have hlast : Listed close ([] ++ [text x]) (_ ++ [close]) := .snoc .nil (.mk hindent h.1 hclosing)
          rw [List.nil_append, List.nil_append, List.append_assoc] at hlast
          exact hlast
      | cons y ys =>
          have hfirst := Padded.mk hindent h.1 .nil
          rw [List.append_nil] at hfirst
          exact .cons hfirst (ih h.2)

end Written

def compactMember (m : String × Json) : List Char := quoted m.1.toList ++ ':' :: m.2.compact

theorem compactItems_eq (items : List Json) : compactItems items = chain compact [] [']'] items := by
  induction items with
  | nil => rfl
  | cons item items ih =>
      cases items with
      | nil => rfl
      | cons second items =>
          show item.compact ++ ',' :: compactItems (second :: items) = _
          rw [ih]
          rfl

theorem compactMembers_eq (members : List (String × Json)) :
    compactMembers members = chain compactMember [] ['}'] members := by
  induction members with
  | nil => rfl
  | cons m members ih =>
      cases members with
      | nil =>
          rw [compactMembers, chain, compactMember]
          simp only [List.append_assoc, List.cons_append, List.nil_append]
      | cons second members =>
          show quoted m.1.toList ++ ':' :: m.2.compact ++ ',' :: compactMembers (second :: members) = _
          rw [ih]
          rfl

theorem keyed_compactMember {m : String × Json} (h : Text m.2 m.2.compact) :
    Keyed m.1 (Text m.2) (compactMember m) := by
  have hkeyed := Keyed.mk (quoted_text m.1) .nil .nil h
  rwa [List.append_nil] at hkeyed

theorem keyed_prettyMember {m : String × Json} {depth : Nat} (h : Text m.2 (m.2.pretty depth)) :
    Keyed m.1 (Text m.2) (prettyMember depth m) := by
  have hblank : Blank [' '] := by simp [Blank, isSpace]
  have hkeyed := Keyed.mk (quoted_text m.1) .nil hblank h
  rwa [List.append_nil] at hkeyed

mutual

theorem text_compact : ∀ j : Json, Text j j.compact
  | null | bool _ | number _ => rfl
  | string s => quoted_text s
  | array items => ⟨_, rfl, by
      rw [compactItems_eq, itemTexts_eq_map]
      exact listed_chain .nil .nil (items_compact items)⟩
  | object members => ⟨_, rfl, by
      rw [compactMembers_eq, memberTexts_eq_map]
      exact listed_chain .nil .nil fun m hm => keyed_compactMember (members_compact members m hm)⟩

theorem items_compact : ∀ items : List Json, ∀ j ∈ items, Text j j.compact
  | [] => fun _ h => absurd h List.not_mem_nil
  | item :: items => List.forall_mem_cons.mpr ⟨text_compact item, items_compact items⟩

theorem members_compact : ∀ members : List (String × Json), ∀ m ∈ members, Text m.2 m.2.compact
  | [] => fun _ h => absurd h List.not_mem_nil
  | (_, value) :: members => List.forall_mem_cons.mpr ⟨text_compact value, members_compact members⟩

end

mutual

theorem text_pretty : ∀ (j : Json) (depth : Nat), Text j (j.pretty depth)
  | null, _ | bool _, _ | number _, _ => rfl
  | string s, _ => quoted_text s
  | array [], _ => ⟨_, rfl, .nil .nil⟩
  | array (item :: items), depth => ⟨_, rfl, by
      rw [prettyItems_eq, itemTexts_eq_map]
      exact listed_chain (blank_newline _) (blank_newline _) (allItems_pretty (item :: items) (depth + 1))⟩
  | object [], _ => ⟨_, rfl, .nil .nil⟩
  | object (m :: members), depth => ⟨_, rfl, by
      rw [prettyMembers_eq, memberTexts_eq_map]
      exact listed_chain (blank_newline _) (blank_newline _) fun n hn =>
        keyed_prettyMember (allMembers_pretty (m :: members) (depth + 1) n hn)⟩

theorem allItems_pretty : ∀ (items : List Json) (depth : Nat), ∀ j ∈ items, Text j (j.pretty depth)
  | [], _ => fun _ h => absurd h List.not_mem_nil
  | item :: items, depth => List.forall_mem_cons.mpr ⟨text_pretty item depth, allItems_pretty items depth⟩

theorem allMembers_pretty : ∀ (members : List (String × Json)) (depth : Nat), ∀ m ∈ members, Text m.2 (m.2.pretty depth)
  | [], _ => fun _ h => absurd h List.not_mem_nil
  | (_, value) :: members, depth =>
      List.forall_mem_cons.mpr ⟨text_pretty value depth, allMembers_pretty members depth⟩

end

end BuilderAudit.Json
