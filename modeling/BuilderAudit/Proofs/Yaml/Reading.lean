import BuilderAudit.Proofs.Yaml.Lexing

/-!
# The events of a flow collection

The tokens of a JSON value are read as the events of the value, whatever is expected behind it. No token of a value
needs more than three steps.

* `Reading.Yields` : all events that a state gives, and in how many steps;
* `Reading.ReadsNode`, `Reading.ReadsItem` : lexemes that are read as a node or as an item of a collection;
* `Reading.readsNode_lexemes` : the lexemes of a value are a node;
* `Document.ofText_laid` : the document of a text.
-/

namespace BuilderAudit.Yaml

abbrev tokensOf (xs : List Lexeme) : List Token := xs.flatMap Lexeme.tokens

abbrev eventsOf {Ref : Type} (xs : List Lexeme) : List (Event Ref) := xs.flatMap Lexeme.events

theorem eventsOf_cons {Ref : Type} (x : Lexeme) (xs : List Lexeme) :
    (eventsOf (x :: xs) : List (Event Ref)) = x.events ++ eventsOf xs := List.flatMap_cons

namespace Reading

variable {ts : List Token} {e : Expectation} {expected : List Expectation} {handles : List (List Char × List Char)}
  {es events : List (Event (List Char))} {next : Reading} {n k : Nat} {xs : List Lexeme} {s : List Char}
  {kind : Collection} {items : List (List Lexeme)}

/-! ## All that is read -/

/-- The state gives the events in at most `n` steps, and no fault follows them. -/
def Yields (r : Reading) (events : List (Event (List Char))) (n : Nat) : Prop :=
  ∀ fuel, n ≤ fuel → r.run fuel = (events, true)

theorem Yields.mono {r : Reading} (h : r.Yields events n) (hn : n ≤ k) : r.Yields events k :=
  fun fuel hfuel => h fuel (hn.trans hfuel)

theorem Yields.step (h : (Reading.mk ts expected handles).meet? e = some (es, next)) (hnext : next.Yields events n) :
    (Reading.mk ts (e :: expected) handles).Yields (es ++ events) (n + 1) := by
  intro fuel hfuel
  cases fuel with
  | zero => exact absurd hfuel (Nat.not_succ_le_zero n)
  | succ fuel => simp only [run, h, hnext fuel (Nat.le_of_succ_le_succ hfuel)]

theorem Yields.silent (h : (Reading.mk ts expected handles).meet? e = some ([], next)) (hnext : next.Yields events n) :
    (Reading.mk ts (e :: expected) handles).Yields events (n + 1) := Yields.step h hnext

theorem Yields.event {event : Event (List Char)} (h : (Reading.mk ts expected handles).meet? e = some ([event], next))
    (hnext : next.Yields events n) : (Reading.mk ts (e :: expected) handles).Yields (event :: events) (n + 1) :=
  Yields.step h hnext

theorem yields_nil : (Reading.mk ts [] handles).Yields [] 1 := by
  intro fuel hfuel
  cases fuel with
  | zero => exact absurd hfuel (Nat.not_succ_le_zero 0)
  | succ fuel => rfl

/-! ## Nodes -/

/-- The tokens are read as a node, whatever comes behind it. -/
def ReadsNode (xs : List Lexeme) : Prop :=
  ∀ ⦃ts expected handles events n⦄ (block indentless : Bool), (Reading.mk ts expected handles).Yields events n →
    (Reading.mk (tokensOf xs ++ ts) (.node block indentless :: expected) handles).Yields (eventsOf xs ++ events)
      (n + 3 * xs.length)

theorem readsNode_text (s : List Char) : ReadsNode [.text s] := by
  intro ts expected handles events n block indentless h
  exact (Yields.event (by rfl) h).mono (by simp)

/-- The expectation in a collection, at its start or behind an item. -/
def entry : Collection → (first : Bool) → Expectation
  | .sequence => .flowEntry
  | .mapping => .flowKey

/-- The tokens are read as an item of a collection. -/
def ReadsItem (kind : Collection) (xs : List Lexeme) : Prop :=
  ∀ ⦃ts expected handles events n⦄, (Reading.mk ts (entry kind false :: expected) handles).Yields events n →
    (Reading.mk (tokensOf xs ++ ts) (entry kind true :: expected) handles).Yields (eventsOf xs ++ events)
      (n + 3 * xs.length + 1)

theorem meet?_comma :
    (Reading.mk (.flowEntry :: ts) expected handles).meet? (entry kind false) =
      (Reading.mk ts expected handles).meet? (entry kind true) := by
  cases kind with
  | sequence =>
      show flowItem? _ ts = flowItem? _ ts
      unfold flowItem?
      split <;> rfl
  | mapping =>
      show flowMember? _ ts = flowMember? _ ts
      unfold flowMember?
      split <;> rfl

/-- Behind a comma an item is read as at the start. -/
theorem Yields.comma (h : (Reading.mk ts (entry kind true :: expected) handles).Yields events n) :
    (Reading.mk (.flowEntry :: ts) (entry kind false :: expected) handles).Yields events n := by
  intro fuel hfuel
  rw [← h fuel hfuel]
  cases fuel with
  | zero => rfl
  | succ fuel => simp only [run, meet?_comma]

theorem meet?_opening (block indentless : Bool) :
    (Reading.mk (kind.startToken :: ts) expected handles).meet? (.node block indentless) =
      some ((Lexeme.opening kind).events, ⟨ts, entry kind true :: expected, handles⟩) := by
  cases kind <;> rfl

section Items

variable (hitems : ∀ item ∈ items, ReadsItem kind item) (h : (Reading.mk ts expected handles).Yields events n)
include hitems h

theorem yields_behindItem :
    (Reading.mk (tokensOf (behindItem kind items) ++ ts) (entry kind false :: expected) handles).Yields
      (eventsOf (behindItem kind items) ++ events) (n + 3 * (behindItem kind items).length) := by
  induction items with
  | nil => cases kind <;> exact (Yields.event (by rfl) h).mono (by simp [behindItem])
  | cons item items ih =>
      rw [List.forall_mem_cons] at hitems
      have hitem := (hitems.1 (ih hitems.2)).comma
      simp only [behindItem_cons, tokensOf, eventsOf, List.flatMap_cons, List.flatMap_append,
        List.append_assoc] at hitem ⊢
      exact hitem.mono (by simp; omega)

theorem yields_enclosed :
    (Reading.mk (tokensOf (enclosed kind items) ++ ts) (entry kind true :: expected) handles).Yields
      (eventsOf (enclosed kind items) ++ events) (n + 3 * (enclosed kind items).length + 1) := by
  cases items with
  | nil => cases kind <;> exact (Yields.event (by rfl) h).mono (by simp [enclosed_nil])
  | cons item items =>
      rw [List.forall_mem_cons] at hitems
      have hitem := hitems.1 (yields_behindItem hitems.2 h)
      simp only [enclosed_cons, tokensOf, eventsOf, List.flatMap_append, List.append_assoc] at hitem ⊢
      exact hitem.mono (by simp; omega)

end Items

/-- A collection of items is a node. -/
theorem readsNode_collection (hitems : ∀ item ∈ items, ReadsItem kind item) :
    ReadsNode (.opening kind :: enclosed kind items) := by
  intro ts expected handles events n block indentless h
  have hnode := Yields.step (meet?_opening block indentless) (yields_enclosed hitems h)
  rw [eventsOf_cons, List.append_assoc]
  refine Yields.mono hnode ?_
  rw [List.length_cons]
  omega

/-! ## Values -/

variable {j : Json}

/-- The lexemes of a value begin with the start of a collection or a scalar. -/
theorem exists_tokens_lexemes (hj : Textual j) :
    ∃ t more, tokensOf (lexemes j) = t :: more ∧
      ((∃ s, t = .scalar s false) ∨ t = .flowSequenceStart ∨ t = .flowMappingStart) := by
  cases hj with
  | string => exact ⟨_, _, rfl, Or.inl ⟨_, rfl⟩⟩
  | array => exact ⟨_, _, rfl, Or.inr (Or.inl rfl)⟩
  | object => exact ⟨_, _, rfl, Or.inr (Or.inr rfl)⟩

/-- A node is an item of a sequence. -/
theorem ReadsNode.item (hj : Textual j) (h : ReadsNode (lexemes j)) : ReadsItem .sequence (lexemes j) := by
  intro ts expected handles events n hmore
  have hnode := h false false hmore
  obtain ⟨t, more, htokens, hstart⟩ := exists_tokens_lexemes hj
  rw [htokens] at hnode ⊢
  refine Yields.silent ?_ hnode
  rcases hstart with ⟨s, rfl⟩ | rfl | rfl <;> rfl

/-- A name with a node behind it is an item of a mapping. -/
theorem ReadsNode.member (hj : Textual j) (h : ReadsNode (lexemes j)) (s : List Char) :
    ReadsItem .mapping (.name s :: lexemes j) := by
  intro ts expected handles events n hmore
  have hnode := h false false hmore
  obtain ⟨t, more, htokens, hstart⟩ := exists_tokens_lexemes hj
  have hvalue : (Reading.mk (.value :: (tokensOf (lexemes j) ++ ts)) (.flowValue false :: expected) handles).Yields
      (eventsOf (lexemes j) ++ events) (n + 3 * (lexemes j).length + 1) := by
    refine Yields.silent ?_ hnode
    rw [htokens]
    rcases hstart with ⟨s, rfl⟩ | rfl | rfl <;> rfl
  have hname : (Reading.mk (.scalar s false :: .value :: (tokensOf (lexemes j) ++ ts))
      (.node false false :: .flowValue false :: expected) handles).Yields
      (.scalar none none s false :: (eventsOf (lexemes j) ++ events)) (n + 3 * (lexemes j).length + 2) :=
    Yields.event (by rfl) hvalue
  refine (Yields.silent (by rfl) hname).mono ?_
  rw [List.length_cons]
  omega

/-- **The lexemes of a value are a node.** -/
theorem readsNode_lexemes (hj : Textual j) : ReadsNode (lexemes j) := by
  induction hj with
  | string => exact readsNode_text _
  | array h ih =>
      rw [lexemes, itemLexemes_eq_map]
      exact readsNode_collection (List.forall_mem_map.mpr fun j hj => (ih j hj).item (h j hj))
  | object _ h ih =>
      rw [lexemes, memberLexemes_eq_map]
      exact readsNode_collection (List.forall_mem_map.mpr fun m hm => (ih m hm).member (h m hm) _)

/-! ## Whole documents -/

/-- The events of a value are the events of its document. -/
theorem yields_start (hj : Textual j) :
    (start (tokensOf (lexemes j) ++ [.streamEnd])).Yields (eventsOf (lexemes j) ++ [.documentEnd])
      (3 * (lexemes j).length + 4) := by
  have hdone : (Reading.mk [.streamEnd] [.document false] defaultHandles).Yields [] 2 :=
    Yields.silent (by rfl) yields_nil
  have hend : (Reading.mk [.streamEnd] [.documentEnd] defaultHandles).Yields [.documentEnd] 3 :=
    Yields.event (by rfl) hdone
  have hnode := readsNode_lexemes hj true false hend
  obtain ⟨t, more, htokens, hstart⟩ := exists_tokens_lexemes hj
  refine (Yields.silent ?_ hnode).mono (by omega)
  rw [htokens]
  rcases hstart with ⟨s, rfl⟩ | rfl | rfl <;> rfl

end Reading

/-! ## Documents -/

theorem length_le_tokensOf (xs : List Lexeme) : xs.length ≤ (tokensOf xs).length := by
  induction xs with
  | nil => exact Nat.zero_le _
  | cons x xs ih =>
      have hpos : 1 ≤ x.tokens.length := by cases x <;> simp [Lexeme.tokens]
      simp only [tokensOf, List.flatMap_cons, List.length_append, List.length_cons] at ih ⊢
      omega

/-- Commas leave no events. -/
theorem eventsOf_enclosed (Ref : Type) (kind : Collection) (items : List (List Lexeme)) :
    (eventsOf (enclosed kind items) : List (Event Ref)) = items.flatMap eventsOf ++ (Lexeme.closing kind).events := by
  cases items with
  | nil => simp [enclosed_nil]
  | cons item items => simp [enclosed_cons, behindItem, List.flatMap_assoc, Lexeme.events]

theorem eventsOf_array {Ref : Type} (items : List Json) :
    (eventsOf (lexemes (.array items)) : List (Event Ref)) =
      .sequenceStart none none :: (items.flatMap (fun j => eventsOf (lexemes j)) ++ [.sequenceEnd]) := by
  have henclosed := eventsOf_enclosed Ref .sequence (items.map lexemes)
  rw [List.flatMap_map] at henclosed
  rw [lexemes, itemLexemes_eq_map, eventsOf_cons, henclosed]
  rfl

theorem eventsOf_object {Ref : Type} (members : List (String × Json)) :
    (eventsOf (lexemes (.object members)) : List (Event Ref)) =
      .mappingStart none none ::
        (members.flatMap (fun m => .scalar none none m.1.toList false :: eventsOf (lexemes m.2)) ++
        [.mappingEnd]) := by
  have henclosed := eventsOf_enclosed Ref .mapping (members.map fun m => .name m.1.toList :: lexemes m.2)
  rw [List.flatMap_map] at henclosed
  rw [lexemes, memberLexemes_eq_map, eventsOf_cons, henclosed]
  rfl

/-- No event of lexemes ends the document. -/
theorem takeWhile_eventsOf (xs : List Lexeme) :
    (eventsOf xs ++ [Event.documentEnd] : List (Event (List Char))).takeWhile (fun e => e != Event.documentEnd) =
      eventsOf xs := by
  have hinner : ∀ e ∈ (eventsOf xs : List (Event (List Char))), (e != Event.documentEnd) = true := by
    intro e he
    obtain ⟨x, -, hx⟩ := List.mem_flatMap.mp he
    rcases x with (_ | _) | (_ | _) | _ | s | s <;> simp_all [Lexeme.events]
  rw [List.takeWhile_append_of_pos hinner]
  simp

/-- Nothing refers to a node. -/
theorem link_eventsOf (a : Anchors) (place : Nat) (xs : List Lexeme) :
    link a place (eventsOf xs) = (eventsOf xs, a, true) := by
  induction xs generalizing place with
  | nil => rfl
  | cons x xs ih =>
      rcases x with (_ | _) | (_ | _) | _ | s | s <;> simp_all [Lexeme.events, link, Event.anchor?]

/-- **A text of the lexemes of a value is a document with the events of the value, and nothing else.** -/
theorem Document.ofText_laid {j : Json} {text : List Char} (hj : Textual j) (h : Laid (lexemes j) text) :
    Document.ofText text = ⟨eventsOf (lexemes j), [], true⟩ := by
  have hnested : Nested 0 true (lexemes j ++ []) := nested_lexemes hj .nil
  rw [List.append_nil] at hnested
  have hlength := length_le_tokensOf (lexemes j)
  have hyields := Reading.yields_start hj (8 * ((tokensOf (lexemes j) ++ [Token.streamEnd]).length + 2)) (by
    rw [List.length_append]
    omega)
  rw [Document.ofText, tokens_laid hnested h]
  simp only [hyields, takeWhile_eventsOf, link_eventsOf]
  simp

end BuilderAudit.Yaml
