import BuilderAudit.Proofs.Json.Grammar
import BuilderAudit.Proofs.Yaml.Quoted
import BuilderAudit.Yaml.Event

/-!
# The words of a flow collection

A JSON value of strings, arrays and objects is a sequence of lexemes, whether it is written on one line or on several. A
lexeme is what YAML can tell apart without looking at what is around it: a key with its colon is one, since the colon
makes a key of it.

* `Lexeme` : the lexemes with their text, their tokens and their events;
* `Laid` : texts of lexemes with spaces and line feeds around them (`laid_compact`, `laid_pretty`);
* `Textual` : the values of strings, arrays and objects that YAML can read; `lexemes` : their lexemes;
* `Nested` : sequences of lexemes in which each collection is closed (`nested_lexemes`).
-/

namespace BuilderAudit.Yaml

open Json (quoted chain afterElement newline)

/-! ## Lexemes -/

/-- The collections that have an opening and a closing sign. -/
inductive Collection
  | sequence | mapping

namespace Collection

def openingSign : Collection → Char
  | sequence => '['
  | mapping => '{'

def closingSign : Collection → Char
  | sequence => ']'
  | mapping => '}'

def startToken : Collection → Token
  | sequence => .flowSequenceStart
  | mapping => .flowMappingStart

def endToken : Collection → Token
  | sequence => .flowSequenceEnd
  | mapping => .flowMappingEnd

end Collection

/-- The words of a flow collection. Everything else between them is white space. -/
inductive Lexeme
  | opening (kind : Collection)
  | closing (kind : Collection)
  | comma
  /-- A key with its colon. -/
  | name (s : List Char)
  | text (s : List Char)

namespace Lexeme

def write : Lexeme → List Char
  | opening kind => [kind.openingSign]
  | closing kind => [kind.closingSign]
  | comma => [',']
  | name s => quoted s ++ [':']
  | text s => quoted s

def tokens : Lexeme → List Token
  | opening kind => [kind.startToken]
  | closing kind => [kind.endToken]
  | comma => [.flowEntry]
  | name s => [.key, .scalar s false, .value]
  | text s => [.scalar s false]

/-- The events are the same whatever stands for a node that is referred to: nothing is referred to. -/
def events {Ref : Type} : Lexeme → List (Event Ref)
  | opening .sequence => [.sequenceStart none none]
  | opening .mapping => [.mappingStart none none]
  | closing .sequence => [.sequenceEnd]
  | closing .mapping => [.mappingEnd]
  | comma => []
  | name s | text s => [.scalar none none s false]

end Lexeme

/-- A text that YAML takes for a key: with its quotes it has at most 1024 characters. -/
structure IsName (s : List Char) : Prop where
  literal : ∀ ch ∈ s, Literal ch
  short : (quoted s).length ≤ 1024

/-! ## Texts of lexemes -/

def Spaced (cs : List Char) : Prop := ∀ ch ∈ cs, ch = ' ' ∨ ch = '\n'

theorem Spaced.nil : Spaced [] := List.forall_mem_nil _

theorem spaced_newline (depth : Nat) : Spaced (newline depth) := by
  intro ch hch
  rw [newline, List.mem_cons, List.mem_replicate] at hch
  exact hch.elim Or.inr fun h => Or.inl h.2

/-- The texts of lexemes. -/
inductive Laid : List Lexeme → List Char → Prop
  | nil {blanks : List Char} (hblanks : Spaced blanks) : Laid [] blanks
  | cons {x : Lexeme} {xs : List Lexeme} {blanks cs : List Char} (hblanks : Spaced blanks) (hmore : Laid xs cs) :
      Laid (x :: xs) (blanks ++ (x.write ++ cs))

variable {xs ys : List Lexeme} {x : Lexeme} {cs ds blanks : List Char}

theorem Laid.pad (h : Laid xs cs) (hblanks : Spaced blanks) : Laid xs (blanks ++ cs) := by
  cases h with
  | nil h => exact .nil (List.forall_mem_append.mpr ⟨hblanks, h⟩)
  | cons h hmore =>
      rw [← List.append_assoc]
      exact .cons (List.forall_mem_append.mpr ⟨hblanks, h⟩) hmore

theorem Laid.append (h : Laid xs cs) (h' : Laid ys ds) : Laid (xs ++ ys) (cs ++ ds) := by
  induction h with
  | nil hblanks => exact h'.pad hblanks
  | cons hblanks _ ih =>
      rw [List.append_assoc, List.append_assoc, List.cons_append]
      exact .cons hblanks ih

theorem Laid.push (x : Lexeme) (h : Laid xs cs) : Laid (x :: xs) (x.write ++ cs) := .cons .nil h

theorem Laid.singleton (x : Lexeme) : Laid [x] x.write := by
  have h := Laid.push x (.nil .nil)
  rwa [List.append_nil] at h

theorem write_ne_nil (x : Lexeme) : x.write ≠ [] := by
  cases x <;> simp [Lexeme.write, quoted]

/-- There are no more lexemes than characters. -/
theorem Laid.length_le (h : Laid xs cs) : xs.length ≤ cs.length := by
  induction h with
  | nil => simp
  | @cons x _ _ _ _ _ ih =>
      have hpos := List.length_pos_iff.mpr (write_ne_nil x)
      simp only [List.length_cons, List.length_append]
      omega

/-! ## Values -/

/-- The values of strings, arrays and objects that YAML can read. -/
inductive Textual : Json → Prop
  | string {s : String} (h : ∀ ch ∈ s.toList, Literal ch) : Textual (.string s)
  | array {items : List Json} (h : ∀ j ∈ items, Textual j) : Textual (.array items)
  | object {members : List (String × Json)} (hnames : ∀ m ∈ members, IsName m.1.toList)
      (h : ∀ m ∈ members, Textual m.2) : Textual (.object members)

/-- Items with commas between them, and the closing sign behind them. -/
def enclosed (kind : Collection) (items : List (List Lexeme)) : List Lexeme :=
  [.comma].intercalate items ++ [.closing kind]

mutual

def lexemes : Json → List Lexeme
  | .string s => [.text s.toList]
  | .array items => .opening .sequence :: enclosed .sequence (itemLexemes items)
  | .object members => .opening .mapping :: enclosed .mapping (memberLexemes members)
  | .null | .bool _ | .number _ => []
termination_by structural j => j

def itemLexemes : List Json → List (List Lexeme)
  | [] => []
  | item :: items => lexemes item :: itemLexemes items
termination_by structural items => items

def memberLexemes : List (String × Json) → List (List Lexeme)
  | [] => []
  | (key, value) :: members => (.name key.toList :: lexemes value) :: memberLexemes members
termination_by structural members => members

end

theorem itemLexemes_eq_map (items : List Json) : itemLexemes items = items.map lexemes := by
  induction items with
  | nil => rfl
  | cons item items ih => rw [itemLexemes, ih, List.map_cons]

theorem memberLexemes_eq_map (members : List (String × Json)) :
    memberLexemes members = members.map fun m => .name m.1.toList :: lexemes m.2 := by
  induction members with
  | nil => rfl
  | cons m members ih => rw [memberLexemes, ih, List.map_cons]

/-! ## Items one after the other -/

def behindItem (kind : Collection) (items : List (List Lexeme)) : List Lexeme :=
  items.flatMap (.comma :: ·) ++ [.closing kind]

theorem enclosed_nil (kind : Collection) : enclosed kind [] = [.closing kind] := rfl

theorem enclosed_cons (kind : Collection) (item : List Lexeme) (items : List (List Lexeme)) :
    enclosed kind (item :: items) = item ++ behindItem kind items := by
  have hitems : [.comma].intercalate (item :: items) = item ++ items.flatMap (.comma :: ·) := by
    induction items generalizing item with
    | nil => simp
    | cons second items ih =>
        rw [List.intercalate_cons_cons, ih, List.flatMap_cons, List.append_assoc]
        rfl
  rw [enclosed, hitems, List.append_assoc]
  rfl

theorem behindItem_cons (kind : Collection) (item : List Lexeme) (items : List (List Lexeme)) :
    behindItem kind (item :: items) = .comma :: (item ++ behindItem kind items) := by
  simp [behindItem]

section Chain

variable {α : Type} {kind : Collection} {lex : α → List Lexeme} {put : α → List Char} {indent closing : List Char}
  {as : List α} (hindent : Spaced indent) (hclosing : Spaced closing) (h : ∀ a ∈ as, Laid (lex a) (put a))
include hindent hclosing h

theorem laid_afterElement :
    Laid (behindItem kind (as.map lex)) (afterElement put indent (closing ++ [kind.closingSign]) as) := by
  induction as with
  | nil => exact (Laid.singleton (.closing kind)).pad hclosing
  | cons a as ih =>
      rw [List.forall_mem_cons] at h
      rw [Json.afterElement_cons, List.map_cons, behindItem_cons, List.append_assoc]
      exact .push .comma ((h.1.append (ih h.2)).pad hindent)

/-- Elements that are written one after the other are laid out with commas between them. -/
theorem laid_chain :
    Laid (enclosed kind (as.map lex)) (chain put indent (closing ++ [kind.closingSign]) as) := by
  cases as with
  | nil => exact (Laid.singleton (.closing kind)).pad hclosing
  | cons a as =>
      rw [List.forall_mem_cons] at h
      rw [Json.chain_cons, List.map_cons, enclosed_cons, List.append_assoc]
      exact (h.1.append (laid_afterElement hindent hclosing h.2)).pad hindent

end Chain

/-! ## Layouts of values -/

variable {j : Json}

/-- A value on one line. -/
theorem laid_compact (h : Textual j) : Laid (lexemes j) j.compact := by
  induction h with
  | string => exact .singleton (.text _)
  | @array items _ ih =>
      rw [lexemes, itemLexemes_eq_map, Json.compact, Json.compactItems_eq]
      exact .push (.opening .sequence) (laid_chain .nil .nil ih)
  | @object members _ _ ih =>
      rw [lexemes, memberLexemes_eq_map, Json.compact, Json.compactMembers_eq]
      refine .push (.opening .mapping) (laid_chain .nil .nil fun m hm => ?_)
      have hmember := Laid.push (.name m.1.toList) (ih m hm)
      rwa [Lexeme.write, List.append_assoc] at hmember

/-- A value over several lines. -/
theorem laid_pretty (h : Textual j) (depth : Nat) : Laid (lexemes j) (j.pretty depth) := by
  induction h generalizing depth with
  | string => exact .singleton (.text _)
  | @array items _ ih =>
      rw [lexemes, itemLexemes_eq_map]
      cases items with
      | nil => exact .push (.opening .sequence) (.singleton (.closing .sequence))
      | cons item items =>
          show Laid _ ('[' :: Json.prettyItems depth (item :: items))
          rw [Json.prettyItems_eq]
          exact .push (.opening .sequence)
            (laid_chain (spaced_newline _) (spaced_newline _) fun j hj => ih j hj (depth + 1))
  | @object members _ _ ih =>
      rw [lexemes, memberLexemes_eq_map]
      cases members with
      | nil => exact .push (.opening .mapping) (.singleton (.closing .mapping))
      | cons m members =>
          show Laid _ ('{' :: Json.prettyMembers depth (m :: members))
          rw [Json.prettyMembers_eq]
          refine .push (.opening .mapping) (laid_chain (spaced_newline _) (spaced_newline _) fun m hm => ?_)
          have hspace : Spaced [' '] := List.forall_mem_singleton.mpr (Or.inl rfl)
          have hmember := Laid.push (.name m.1.toList) ((ih m hm (depth + 1)).pad hspace)
          rwa [Lexeme.write, List.append_assoc] at hmember

/-! ## Nesting -/

/-- Lexemes that may follow in `depth` collections: each collection is closed. A name may only follow where `named`
tells that a key may begin. -/
inductive Nested : (depth : Nat) → (named : Bool) → List Lexeme → Prop
  | nil {named : Bool} : Nested 0 named []
  | opening {depth : Nat} {named : Bool} {more : List Lexeme} (kind : Collection) (h : Nested (depth + 1) true more) :
      Nested depth named (.opening kind :: more)
  | closing {depth : Nat} {named : Bool} {more : List Lexeme} (kind : Collection) (h : Nested depth false more) :
      Nested (depth + 1) named (.closing kind :: more)
  | comma {depth : Nat} {named : Bool} {more : List Lexeme} (h : Nested (depth + 1) true more) :
      Nested (depth + 1) named (.comma :: more)
  | name {depth : Nat} {s : List Char} {more : List Lexeme} (hs : IsName s) (h : Nested (depth + 1) false more) :
      Nested (depth + 1) true (.name s :: more)
  | text {depth : Nat} {named : Bool} {s : List Char} {more : List Lexeme} (hs : ∀ ch ∈ s, Literal ch)
      (h : Nested depth false more) : Nested depth named (.text s :: more)

section Items

variable {depth : Nat} {kind : Collection} {items : List (List Lexeme)}
  (hitems : ∀ item ∈ items, ∀ xs, Nested (depth + 1) false xs → Nested (depth + 1) true (item ++ xs))
  (h : Nested depth false xs)
include hitems h

theorem nested_behindItem : Nested (depth + 1) false (behindItem kind items ++ xs) := by
  induction items with
  | nil => exact .closing kind h
  | cons item items ih =>
      rw [List.forall_mem_cons] at hitems
      rw [behindItem_cons, List.cons_append, List.append_assoc]
      exact .comma (hitems.1 _ (ih hitems.2))

theorem nested_enclosed : Nested (depth + 1) true (enclosed kind items ++ xs) := by
  cases items with
  | nil => exact .closing kind h
  | cons item items =>
      rw [List.forall_mem_cons] at hitems
      rw [enclosed_cons, List.append_assoc]
      exact hitems.1 _ (nested_behindItem hitems.2 h)

end Items

/-- In the lexemes of a value each collection is closed. -/
theorem nested_lexemes (hj : Textual j) {depth : Nat} {named : Bool} (h : Nested depth false xs) :
    Nested depth named (lexemes j ++ xs) := by
  induction hj generalizing depth named xs with
  | string hs => exact .text hs h
  | array _ ih =>
      rw [lexemes, itemLexemes_eq_map]
      exact .opening .sequence (nested_enclosed (List.forall_mem_map.mpr fun j hj _ hxs => ih j hj hxs) h)
  | object hnames _ ih =>
      rw [lexemes, memberLexemes_eq_map]
      exact .opening .mapping (nested_enclosed
        (List.forall_mem_map.mpr fun m hm _ hxs => .name (hnames m hm) (ih m hm hxs)) h)

/-! ## Printable texts -/

theorem isPrintable_spaced (h : Spaced blanks) : blanks.all isPrintable = true := by
  rw [List.all_eq_true]
  intro ch hch
  rcases h ch hch with rfl | rfl <;> decide

theorem isPrintable_cons (hx : x.write.all isPrintable = true) (hmore : ∀ ds, Laid xs ds → ds.all isPrintable = true)
    (h : Laid (x :: xs) cs) : cs.all isPrintable = true := by
  cases h with
  | cons hblanks h => rw [List.all_append, List.all_append, isPrintable_spaced hblanks, hx, hmore _ h]; rfl

/-- What is written may stand in a YAML text. -/
theorem isPrintable_laid {depth : Nat} {named : Bool} (hxs : Nested depth named xs) (h : Laid xs cs) :
    cs.all isPrintable = true := by
  induction hxs generalizing cs with
  | nil => cases h with | nil hblanks => exact isPrintable_spaced hblanks
  | opening kind _ ih => exact isPrintable_cons (by cases kind <;> decide) (fun _ => ih) h
  | closing kind _ ih => exact isPrintable_cons (by cases kind <;> decide) (fun _ => ih) h
  | comma _ ih => exact isPrintable_cons (by decide) (fun _ => ih) h
  | name hs _ ih =>
      refine isPrintable_cons ?_ (fun _ => ih) h
      rw [Lexeme.write, List.all_append, isPrintable_quoted hs.literal]
      decide
  | text hs _ ih => exact isPrintable_cons (x := .text _) (isPrintable_quoted hs) (fun _ => ih) h

end BuilderAudit.Yaml
