import BuilderAudit.Proofs.Yaml.Lexeme

/-!
# The tokens of a flow collection

The tokens of a text of lexemes are the tokens of the lexemes. Where a key may begin, tokens are held back until it is
known whether it is one, and they are given out between the steps that read on. So the statements are about all that a
state will give out, `queue` being what it holds already.

* `Lexer.Yields` : all tokens that a state gives out, and in how many steps;
* `Lexer.At` : a state between two lexemes; `Lexer.AtColon` : a state between a name and its colon;
* `Lexer.At.advance?_sign`, `Lexer.At.advance?_end` : one step;
* `tokens_laid` : the tokens of a text.
-/

namespace BuilderAudit.Yaml

namespace Lexer

open Json (quoted)

variable {l m : Lexer} {depth n k : Nat} {named : Bool} {queue ts : List Token} {rest cs blanks s : List Char}
  {ch : Char}

/-! ## All that is given out -/

/-- The state gives out the tokens in at most `n` steps, and no fault follows them. -/
def Yields (l : Lexer) (ts : List Token) (n : Nat) : Prop := ∀ fuel, n ≤ fuel → l.run fuel = (ts, true)

theorem Yields.mono (h : l.Yields ts n) (hn : n ≤ k) : l.Yields ts k := fun fuel hfuel => h fuel (hn.trans hfuel)

theorem Yields.advance (hstale : l.dropStale? = some m) (hheld : m.isHeld = true) {next : Lexer}
    (hadvance : m.advance? = some next) (h : next.Yields ts n) : l.Yields ts (n + 1) := by
  intro fuel hfuel
  cases fuel with
  | zero => exact absurd hfuel (Nat.not_succ_le_zero n)
  | succ fuel =>
      simp only [run, hstale, hheld, if_true, hadvance]
      exact h fuel (Nat.le_of_succ_le_succ hfuel)

theorem Yields.give {t : Token} {tail : List Token} (hstale : l.dropStale? = some m) (hheld : m.isHeld = false)
    (hqueue : m.queue = t :: tail) (ht : t ≠ .streamEnd)
    (h : Yields { m with queue := tail, given := m.given + 1 } ts n) : l.Yields (t :: ts) (n + 1) := by
  intro fuel hfuel
  cases fuel with
  | zero => exact absurd hfuel (Nat.not_succ_le_zero n)
  | succ fuel =>
      have hrun := h fuel (Nat.le_of_succ_le_succ hfuel)
      simp only [run, hstale, hheld, Bool.false_eq_true, if_false, hqueue]
      cases t <;> first | exact absurd rfl ht | simp only [hrun]

theorem Yields.last (hstale : l.dropStale? = some m) (hheld : m.isHeld = false) (hqueue : m.queue = [.streamEnd]) :
    l.Yields [.streamEnd] 1 := by
  intro fuel hfuel
  cases fuel with
  | zero => exact absurd hfuel (Nat.not_succ_le_zero 0)
  | succ fuel => simp only [run, hstale, hheld, Bool.false_eq_true, if_false, hqueue]

/-- What holds of a state whatever has been given out of its queue decides on all that it gives out: only the step that
reads on is left to look at. -/
theorem yields_of_advance (inv : List Token → Lexer → Prop)
    (hstale : ∀ queue l, inv queue l → ∃ m, l.dropStale? = some m ∧ inv queue m)
    (hgive : ∀ queue l, inv queue l → l.isHeld = false → ∃ t queue' tail, queue = t :: queue' ∧ t ≠ .streamEnd ∧
      l.queue = t :: tail ∧ inv queue' { l with queue := tail, given := l.given + 1 })
    (hadvance : ∀ queue l, inv queue l → ∃ next, l.advance? = some next ∧ next.Yields (queue ++ ts) (queue.length + n))
    (h : inv queue l) : l.Yields (queue ++ ts) (queue.length + (n + 1)) := by
  -- Giving out shortens the queue, and reading on ends the induction: `hadvance` is about all that comes after it.
  induction hlength : queue.length using Nat.strongRecOn generalizing queue l with
  | ind length ih =>
  subst hlength
  obtain ⟨m, hm, hinv⟩ := hstale _ _ h
  cases hheld : m.isHeld with
  | true =>
      obtain ⟨next, hnext, hyields⟩ := hadvance _ _ hinv
      exact Yields.advance hm hheld hnext hyields
  | false =>
      obtain ⟨t, queue', tail, rfl, ht, hqueue, hinv'⟩ := hgive _ _ hinv hheld
      have hyields := Yields.give hm hheld hqueue ht (ih queue'.length (Nat.lt_succ_self _) hinv' rfl)
      rwa [Nat.add_right_comm] at hyields

/-! ## States between two lexemes -/

/-- None of the keys that may have begun has to be one. -/
def Free (keys : List (Option KeyStart)) : Prop := ∀ key ∈ keys, ∀ start ∈ key, start.required = false

/-- The state between two lexemes, in `depth` collections. -/
structure At (l : Lexer) (depth : Nat) (named : Bool) (queue : List Token) (rest : List Char) : Prop where
  rest_eq : l.cursor.rest = rest
  queue_eq : l.queue = queue
  keys_length : l.keys.length = depth + 1
  free : Free l.keys
  indents_eq : l.indents = []
  keyAllowed : named = true → l.keyAllowed = true
  unended : Token.streamEnd ∉ queue

theorem at_start (text : List Char) : (start text).At 0 true [] text where
  rest_eq := rfl
  queue_eq := rfl
  keys_length := rfl
  free := by simp [Free, start]
  indents_eq := rfl
  keyAllowed := fun _ => rfl
  unended := List.not_mem_nil

theorem dropStale?_of_free (h : Free l.keys) :
    l.dropStale? = some { l with keys := l.keys.map fun k => k.filter fun k => !l.isStale k } := by
  have hnone : (l.keys.any fun k => k.any fun k => l.isStale k && k.required) = false := by
    rw [List.any_eq_false]
    intro key hkey
    cases key with
    | none => simp
    | some start => simp [h _ hkey start rfl]
  rw [dropStale?, hnone]
  rfl

theorem free_filter {keys : List (Option KeyStart)} (h : Free keys) (p : KeyStart → Bool) :
    Free (keys.map fun k => k.filter p) := by
  intro key hkey start hstart
  obtain ⟨key, hmem, rfl⟩ := List.mem_map.mp hkey
  exact h key hmem start (Option.eq_some_of_filter_eq_some hstart)

theorem At.dropStale? (h : l.At depth named queue rest) : ∃ m, l.dropStale? = some m ∧ m.At depth named queue rest :=
  ⟨_, dropStale?_of_free h.free, { h with keys_length := by simp [h.keys_length], free := free_filter h.free _ }⟩

theorem At.give (h : l.At depth named queue rest) (hheld : l.isHeld = false) :
    ∃ t queue' tail, queue = t :: queue' ∧ t ≠ .streamEnd ∧ l.queue = t :: tail ∧
      At { l with queue := tail, given := l.given + 1 } depth named queue' rest := by
  cases queue with
  | nil => simp [isHeld, h.queue_eq] at hheld
  | cons t queue' =>
      have hended := h.unended
      rw [List.mem_cons, not_or] at hended
      exact ⟨t, queue', queue', rfl, Ne.symm hended.1, h.queue_eq, { h with queue_eq := rfl, unended := hended.2 }⟩

/-- Between two lexemes only the step that reads on is left to look at. -/
theorem At.yields
    (hadvance : ∀ queue (l : Lexer), l.At depth named queue rest →
      ∃ next, l.advance? = some next ∧ next.Yields (queue ++ ts) (queue.length + n))
    (h : l.At depth named queue rest) : l.Yields (queue ++ ts) (queue.length + (n + 1)) :=
  yields_of_advance (fun queue l => l.At depth named queue rest) (fun _ _ h => h.dropStale?)
    (fun _ _ h hheld => h.give hheld) hadvance h

/-! ## White space -/

/-- What begins with a character that is skipped neither as white space nor as a comment. -/
def Solid (cs : List Char) : Prop := ∀ ch ∈ cs.head?, isGap ch = false ∧ isBreak ch = false ∧ ch ≠ '#' ∧ ch ≠ '\uFEFF'

theorem skipBlanks_of_spaces (h : l.cursor.rest = List.replicate n ' ' ++ cs)
    (hcs : ∀ ch ∈ cs.head?, isGap ch = false ∧ ch ≠ '#' ∧ ch ≠ '\uFEFF') : l.skipBlanks = l.cursor.drop n := by
  have hmark : l.cursor.head? ≠ some '\uFEFF' := by
    rw [Cursor.head?, h]
    cases n with
    | zero => exact fun hhead => (hcs _ hhead).2.2 rfl
    | succ n => simp [List.replicate_succ]
  have htaken (p : Char → Bool) (hspace : p ' ' = true) (hstop : ∀ ch, isGap ch = false → p ch = false) :
      l.cursor.rest.takeWhile p = List.replicate n ' ' := by
    rw [h, List.takeWhile_append_of_pos (fun ch hch => List.eq_of_mem_replicate hch ▸ hspace)]
    cases cs with
    | nil => simp
    | cons ch cs => simp [hstop ch (hcs ch rfl).1]
  have hrest := Cursor.rest_drop_replicate h
  have hcomment : (l.cursor.drop n).head? ≠ some '#' := by
    rw [Cursor.head?, hrest]
    exact fun hhead => (hcs _ hhead).2.1 rfl
  rw [skipBlanks]
  simp only [hmark, decide_false, Bool.and_false, Bool.false_eq_true, if_false, Cursor.skipWhile, Cursor.spanWhile]
  rw [htaken _ (by simp) (by simp [isGap]; tauto), List.length_replicate, Cursor.skipComment, if_neg hcomment]

/-- Spaces with a lexeme or the end of the text behind them. -/
theorem skipSpace_spaces (h : l.cursor.rest = List.replicate n ' ' ++ cs) (hcs : Solid cs) :
    l.skipSpace = l.moveTo (l.cursor.drop n) := by
  have hblanks := skipBlanks_of_spaces h fun ch hch => ⟨(hcs ch hch).1, (hcs ch hch).2.2⟩
  have hbreak : (l.cursor.drop n).head?.any isBreak = false := by
    rw [Cursor.head?, Cursor.rest_drop_replicate h]
    cases hhead : cs.head? with
    | none => rfl
    | some ch => exact (hcs ch hhead).2.1
  rw [skipSpace, hblanks, hbreak, if_neg Bool.false_ne_true]

theorem rest_skipBreak {c : Cursor} (h : c.rest = '\n' :: cs) : c.skipBreak.2.rest = cs := by
  simp [Cursor.skipBreak, h, isBreak]

/-- Spaces with a line feed behind them. -/
theorem skipSpace_lineFeed (h : l.cursor.rest = List.replicate n ' ' ++ '\n' :: cs) :
    ∃ c : Cursor, c.rest = cs ∧
      l.skipSpace = skipSpace { l with cursor := c, keyAllowed := l.keyAllowed || !l.inFlow } := by
  have hblanks := skipBlanks_of_spaces h (by simp [isGap])
  have hrest := Cursor.rest_drop_replicate h
  have hbreak : (l.cursor.drop n).head?.any isBreak = true := by rw [Cursor.head?, hrest]; rfl
  have hbehind : (l.cursor.drop n).skipBreak.2.rest = cs := rest_skipBreak hrest
  refine ⟨_, hbehind, ?_⟩
  rw [skipSpace, hblanks, hbreak, if_pos rfl, if_pos]
  rw [hbehind, h]
  simp
  omega

theorem At.skipSpace (h : l.At depth named queue (blanks ++ cs)) (hblanks : Spaced blanks) (hcs : Solid cs) :
    l.skipSpace.At depth named queue cs := by
  induction hlength : blanks.length using Nat.strongRecOn generalizing l blanks with
  | ind length ih =>
  subst hlength
  obtain ⟨n, behind, rfl, hbehind⟩ := exists_spaces blanks
  have hrest := h.rest_eq
  rw [List.append_assoc] at hrest
  rw [Spaced, List.forall_mem_append] at hblanks
  cases behind with
  | nil =>
      rw [skipSpace_spaces hrest hcs]
      exact { h with rest_eq := Cursor.rest_drop_replicate hrest }
  | cons ch behind =>
      obtain ⟨hch, hmore⟩ := List.forall_mem_cons.mp hblanks.2
      obtain rfl : ch = '\n' := hch.resolve_left fun he => hbehind (by rw [he]; rfl)
      obtain ⟨c, hc, hskip⟩ := skipSpace_lineFeed hrest
      rw [hskip]
      refine ih behind.length (by simp; omega) ?_ hmore rfl
      exact { h with rest_eq := hc, keyAllowed := fun hnamed => by simp [h.keyAllowed hnamed] }

theorem outdent_of_nil (h : l.indents = []) (column : Nat) : l.outdent column = l := by
  obtain ⟨cursor, tokens, given, keys, indents, keyAllowed⟩ := l
  subst h
  simp [outdent]

/-- Before a lexeme, white space is skipped. -/
theorem At.advance?_sign (h : l.At depth named queue (blanks ++ ch :: cs)) (hblanks : Spaced blanks)
    (hch : Solid (ch :: cs)) : ∃ m : Lexer, m.At depth named queue (ch :: cs) ∧ l.advance? = m.token? ch := by
  obtain ⟨m, hm, hat⟩ := (h.skipSpace hblanks hch).dropStale?
  refine ⟨m, hat, ?_⟩
  have hhead : m.cursor.head? = some ch := by rw [Cursor.head?, hat.rest_eq, List.head?_cons]
  simp only [advance?, hm, Option.bind_eq_bind, Option.bind_some, outdent_of_nil hat.indents_eq, hhead]

theorem At.advance?_end (h : l.At depth named queue blanks) (hblanks : Spaced blanks) :
    ∃ m : Lexer, m.At depth named queue [] ∧ l.advance? = m.finish? := by
  have h' : l.At depth named queue (blanks ++ []) := by rwa [List.append_nil]
  obtain ⟨m, hm, hat⟩ := (h'.skipSpace hblanks (by simp [Solid])).dropStale?
  refine ⟨m, hat, ?_⟩
  have hhead : m.cursor.head? = none := by rw [Cursor.head?, hat.rest_eq, List.head?_nil]
  simp only [advance?, hm, Option.bind_eq_bind, Option.bind_some, outdent_of_nil hat.indents_eq, hhead]

/-! ## Single lexemes -/

theorem At.dropKey? (h : l.At depth named queue rest) : ∃ m, l.dropKey? = some m ∧ m.At depth named queue rest := by
  have hfree := h.free
  have hlength := h.keys_length
  unfold Lexer.dropKey?
  split
  · next start keys hkeys =>
    rw [hkeys] at hfree hlength
    rw [hfree _ List.mem_cons_self start rfl, if_neg Bool.false_ne_true]
    exact ⟨_, rfl, { h with
      keys_length := hlength
      free := List.forall_mem_cons.mpr ⟨by simp, (List.forall_mem_cons.mp hfree).2⟩ }⟩
  · exact ⟨l, rfl, h⟩

/-- A key that begins here does not have to be one: no block is open. -/
theorem At.noteKey? (h : l.At depth named queue rest) : ∃ m, l.noteKey? = some m ∧ m.At depth named queue rest := by
  rw [Lexer.noteKey?]
  split
  · exact ⟨l, rfl, h⟩
  · obtain ⟨m, hm, hat⟩ := h.dropKey?
    rw [hm]
    refine ⟨_, rfl, { hat with keys_length := ?_, free := List.forall_mem_cons.mpr ⟨?_, ?_⟩ }⟩
    · simp [hat.keys_length]
    · simp [hat.indents_eq]
    · exact fun key hkey => hat.free key (List.mem_of_mem_drop hkey)

theorem atDocumentSign_of_head {c : Cursor} (h : c.rest = ch :: cs) (hdash : ch ≠ '-') (hdot : ch ≠ '.') :
    c.atDocumentSign = false := by
  simp [Cursor.atDocumentSign, h, List.isPrefixOf, hdash.symm, hdot.symm]

theorem unended_append (h : Token.streamEnd ∉ queue) (hts : Token.streamEnd ∉ ts) : Token.streamEnd ∉ queue ++ ts :=
  fun hmem => (List.mem_append.mp hmem).elim h hts

theorem At.opening {kind : Collection} (h : l.At depth named queue (kind.openingSign :: cs)) :
    ∃ m, l.token? kind.openingSign = some m ∧ m.At (depth + 1) true (queue ++ [kind.startToken]) cs := by
  have hsign : l.cursor.atDocumentSign = false :=
    atDocumentSign_of_head h.rest_eq (by cases kind <;> decide) (by cases kind <;> decide)
  have htoken : l.token? kind.openingSign = l.openFlow? kind.startToken := by
    cases kind <;> simp [token?, hsign, Collection.openingSign, Collection.startToken]
  obtain ⟨m, hm, hat⟩ := h.noteKey?
  rw [htoken, openFlow?, hm]
  refine ⟨_, rfl, { hat with
    rest_eq := Cursor.rest_skip hat.rest_eq
    queue_eq := by rw [← hat.queue_eq]; rfl
    keys_length := by rw [List.length_cons, hat.keys_length]
    free := List.forall_mem_cons.mpr ⟨by simp, hat.free⟩
    keyAllowed := fun _ => rfl
    unended := unended_append hat.unended (by cases kind <;> decide) }⟩

theorem At.closing {kind : Collection} (h : l.At (depth + 1) named queue (kind.closingSign :: cs)) :
    ∃ m, l.token? kind.closingSign = some m ∧ m.At depth false (queue ++ [kind.endToken]) cs := by
  have hsign : l.cursor.atDocumentSign = false :=
    atDocumentSign_of_head h.rest_eq (by cases kind <;> decide) (by cases kind <;> decide)
  have htoken : l.token? kind.closingSign = l.closeFlow? kind.endToken := by
    cases kind <;> simp [token?, hsign, Collection.closingSign, Collection.endToken]
  obtain ⟨m, hm, hat⟩ := h.dropKey?
  have hflow : m.inFlow = true := by simp [inFlow, hat.keys_length]
  rw [htoken, closeFlow?, hm]
  refine ⟨_, rfl, { hat with
    rest_eq := Cursor.rest_skip hat.rest_eq
    queue_eq := by rw [← hat.queue_eq]; rfl
    keys_length := by simp [hflow, hat.keys_length]
    free := ?_
    keyAllowed := by simp
    unended := unended_append hat.unended (by cases kind <;> decide) }⟩
  rw [if_pos hflow]
  exact fun key hkey => hat.free key (List.mem_of_mem_drop hkey)

theorem At.comma (h : l.At depth named queue (',' :: cs)) :
    ∃ m, l.token? ',' = some m ∧ m.At depth true (queue ++ [.flowEntry]) cs := by
  have hsign : l.cursor.atDocumentSign = false := atDocumentSign_of_head h.rest_eq (by decide) (by decide)
  have htoken : l.token? ',' = l.comma? := by simp [token?, hsign]
  obtain ⟨m, hm, hat⟩ := h.dropKey?
  rw [htoken, comma?, hm]
  exact ⟨_, rfl, { hat with
    rest_eq := Cursor.rest_skip hat.rest_eq
    queue_eq := by rw [← hat.queue_eq]; rfl
    keyAllowed := fun _ => rfl
    unended := unended_append hat.unended (by decide) }⟩

theorem token?_quote (h : l.cursor.rest = quoted s ++ cs) : l.token? '"' = l.quotedScalar? '"' := by
  have hsign : l.cursor.atDocumentSign = false := atDocumentSign_of_head h (by decide) (by decide)
  simp [token?, hsign]

theorem At.text (hs : ∀ ch ∈ s, Literal ch) (h : l.At depth named queue (quoted s ++ cs)) :
    ∃ m, l.token? '"' = some m ∧ m.At depth false (queue ++ [.scalar s false]) cs := by
  obtain ⟨m, hm, hat⟩ := h.noteKey?
  rw [token?_quote h.rest_eq, quotedScalar?, word?, hm]
  simp only [Option.bind_eq_bind, Option.bind_some, quoted?_quoted hs hat.rest_eq, Option.map_some, Option.pure_def]
  exact ⟨_, rfl, { hat with
    rest_eq := Cursor.rest_drop_length hat.rest_eq
    queue_eq := by rw [← hat.queue_eq]; rfl
    keyAllowed := by simp
    unended := unended_append hat.unended (by simp) }⟩

/-! ## Names -/

/-- The state between a name and its colon, in `depth + 1` collections: it is known where the key began. -/
structure AtColon (l : Lexer) (depth : Nat) (s : List Char) (queue : List Token) (rest : List Char) : Prop where
  rest_eq : l.cursor.rest = ':' :: rest
  queue_eq : l.queue = queue ++ [.scalar s false]
  key : ∃ start keys, l.keys = some start :: keys ∧ start.number = l.given + queue.length ∧ l.isStale start = false
  keys_length : l.keys.length = depth + 2
  free : Free l.keys
  indents_eq : l.indents = []
  unended : Token.streamEnd ∉ queue

theorem At.name (hs : IsName s) (h : l.At (depth + 1) true queue (quoted s ++ ':' :: cs)) :
    ∃ m, l.token? '"' = some m ∧ m.AtColon depth s queue cs := by
  obtain ⟨m, hm, hat⟩ := h.dropKey?
  have hfree : Free (m.keys.drop 1) := fun key hkey => hat.free key (List.mem_of_mem_drop hkey)
  rw [token?_quote h.rest_eq, quotedScalar?, word?, Lexer.noteKey?, h.keyAllowed rfl, hm]
  simp only [Bool.not_true, Bool.false_eq_true, if_false, Option.bind_eq_bind, Option.bind_some, Option.pure_def,
    quoted?_quoted hs.literal hat.rest_eq, Option.map_some]
  exact ⟨_, rfl, {
    rest_eq := Cursor.rest_drop_length hat.rest_eq
    queue_eq := by rw [← hat.queue_eq]; rfl
    key := ⟨_, _, rfl, by rw [← hat.queue_eq]; rfl, by
      simpa [isStale, emit, moveTo, allowKey] using hs.short⟩
    keys_length := by simp [emit, moveTo, allowKey, hat.keys_length]
    free := List.forall_mem_cons.mpr ⟨by simp [hat.indents_eq], hfree⟩
    indents_eq := hat.indents_eq
    unended := hat.unended }⟩

theorem AtColon.dropStale? (h : l.AtColon depth s queue rest) :
    ∃ m, l.dropStale? = some m ∧ m.AtColon depth s queue rest := by
  obtain ⟨start, keys, hkeys, hnumber, hfresh⟩ := h.key
  have hkept : (l.keys.map fun k => k.filter fun k => !l.isStale k) =
      some start :: keys.map fun k => k.filter fun k => !l.isStale k := by
    rw [hkeys, List.map_cons, Option.filter_some, hfresh]
    rfl
  exact ⟨_, dropStale?_of_free h.free, { h with
    key := ⟨start, _, hkept, hnumber, hfresh⟩
    keys_length := by simp [h.keys_length]
    free := free_filter h.free _ }⟩

/-- The name is not given out before its colon is reached. -/
theorem AtColon.give (h : l.AtColon depth s queue rest) (hheld : l.isHeld = false) :
    ∃ t queue' tail, queue = t :: queue' ∧ t ≠ .streamEnd ∧ l.queue = t :: tail ∧
      AtColon { l with queue := tail, given := l.given + 1 } depth s queue' rest := by
  obtain ⟨start, keys, hkeys, hnumber, hfresh⟩ := h.key
  cases queue with
  | nil => simp [isHeld, hkeys, hnumber] at hheld
  | cons t queue' =>
      have hended := h.unended
      rw [List.mem_cons, not_or] at hended
      refine ⟨t, queue', _, rfl, Ne.symm hended.1, h.queue_eq, { h with
        queue_eq := rfl
        key := ⟨start, keys, hkeys, ?_, hfresh⟩
        unended := hended.2 }⟩
      show start.number = l.given + 1 + queue'.length
      rw [hnumber, List.length_cons]
      omega

theorem indent_of_inFlow {column number : Nat} {t : Token} (h : l.inFlow = true) : l.indent column number t = l := by
  simp [indent, h]

/-- The colon makes a key of the name: the sign of a key is put in front of it. -/
theorem AtColon.advance? (h : l.AtColon depth s queue rest) :
    ∃ m, l.advance? = some m ∧ m.At (depth + 1) false (queue ++ [.key, .scalar s false, .value]) rest := by
  have hsolid : Solid l.cursor.rest := by rw [h.rest_eq]; simp [Solid, isGap, isBreak]
  have hskip : l.skipSpace = l := skipSpace_spaces (n := 0) rfl hsolid
  obtain ⟨m, hm, hat⟩ := h.dropStale?
  obtain ⟨start, keys, hkeys, hnumber, -⟩ := hat.key
  have hlength := hat.keys_length
  have hfree := hat.free
  rw [hkeys] at hlength hfree
  have hhead : m.cursor.head? = some ':' := by rw [Cursor.head?, hat.rest_eq, List.head?_cons]
  have hflow : m.inFlow = true := by simp [inFlow, hat.keys_length]
  have hsign : m.cursor.atDocumentSign = false := atDocumentSign_of_head hat.rest_eq (by decide) (by decide)
  have htoken : m.token? ':' = m.colon? := by simp [token?, hsign, hflow]
  rw [Lexer.advance?, hskip, hm]
  simp only [Option.bind_eq_bind, Option.bind_some, outdent_of_nil hat.indents_eq, hhead, htoken]
  have hplace : start.number - m.given = queue.length := by rw [hnumber, Nat.add_sub_cancel_left]
  have hinner : inFlow { m.insert start.number .key with keys := none :: keys, keyAllowed := false } = true := by
    simp [inFlow, Nat.succ.inj hlength]
  rw [colon?, hkeys]
  refine ⟨_, rfl, ?_⟩
  rw [indent_of_inFlow hinner]
  exact {
    rest_eq := Cursor.rest_skip hat.rest_eq
    queue_eq := by simp [emit, insert, moveTo, hplace, hat.queue_eq]
    keys_length := hlength
    free := List.forall_mem_cons.mpr ⟨by simp, (List.forall_mem_cons.mp hfree).2⟩
    indents_eq := hat.indents_eq
    keyAllowed := by simp
    unended := unended_append hat.unended (by simp) }

/-! ## The end of the text -/

/-- At the end of the text no key is left that might begin. -/
theorem At.finish? (h : l.At 0 named queue []) :
    ∃ m, l.finish? = some m ∧ m.queue = queue ++ [.streamEnd] ∧ ∀ key ∈ m.keys, key = none := by
  have houtdent : l.outdentAll = l := by
    obtain ⟨cursor, tokens, given, keys, indents, keyAllowed⟩ := l
    obtain rfl := h.indents_eq
    simp [outdentAll]
  obtain ⟨key, hkey⟩ := List.length_eq_one_iff.mp h.keys_length
  rw [Lexer.finish?, houtdent, Lexer.dropKey?, hkey]
  cases key with
  | none => exact ⟨_, rfl, by rw [← h.queue_eq]; rfl, by simp [emit, allowKey, hkey]⟩
  | some start =>
      have hfree : start.required = false := h.free _ (by rw [hkey]; exact List.mem_singleton_self _) start rfl
      simp only [hfree, Bool.false_eq_true, if_false]
      exact ⟨_, rfl, by rw [← h.queue_eq]; rfl, by simp [emit, allowKey]⟩

/-- Without keys nothing is held back. -/
theorem dropStale?_of_none (hqueue : l.queue ≠ []) (hkeys : ∀ key ∈ l.keys, key = none) :
    ∃ m, l.dropStale? = some m ∧ m.isHeld = false ∧ m.queue = l.queue ∧ ∀ key ∈ m.keys, key = none := by
  have hfree : Free l.keys := fun key hkey start hstart => by rw [hkeys key hkey] at hstart; cases hstart
  have hmap : ∀ key ∈ l.keys.map fun k => k.filter fun k => !l.isStale k, key = none := by
    intro key hkey
    obtain ⟨key, hmem, rfl⟩ := List.mem_map.mp hkey
    rw [hkeys key hmem, Option.filter_none]
  refine ⟨_, dropStale?_of_free hfree, ?_, rfl, hmap⟩
  simp only [isHeld, Bool.or_eq_false_iff, List.isEmpty_eq_false_iff, List.any_eq_false]
  exact ⟨hqueue, fun key hkey => by simp [hmap key hkey]⟩

/-- At the end the queue is given out. -/
theorem yields_queue (hqueue : l.queue = queue ++ [.streamEnd]) (hkeys : ∀ key ∈ l.keys, key = none)
    (hended : Token.streamEnd ∉ queue) : l.Yields (queue ++ [.streamEnd]) (queue.length + 1) := by
  induction queue generalizing l with
  | nil =>
      obtain ⟨m, hm, hheld, hsame, -⟩ := dropStale?_of_none (by simp [hqueue]) hkeys
      exact Yields.last hm hheld (hsame.trans hqueue)
  | cons t queue ih =>
      obtain ⟨m, hm, hheld, hsame, hnone⟩ := dropStale?_of_none (by simp [hqueue]) hkeys
      rw [List.mem_cons, not_or] at hended
      exact Yields.give hm hheld (hsame.trans hqueue) (Ne.symm hended.1) (ih rfl hnone hended.2)

/-! ## Whole texts -/

variable {xs : List Lexeme}

/-- A lexeme with white space in front of it is left to its own step. -/
theorem At.yields_sign (hch : Solid (ch :: cs))
    (htoken : ∀ queue (l : Lexer), l.At depth named queue (ch :: cs) →
      ∃ m, l.token? ch = some m ∧ m.Yields (queue ++ ts) (queue.length + n))
    (hblanks : Spaced blanks) (h : l.At depth named queue (blanks ++ ch :: cs)) :
    l.Yields (queue ++ ts) (queue.length + (n + 1)) := by
  refine h.yields fun queue l hl => ?_
  obtain ⟨m, hat, hadvance⟩ := hl.advance?_sign hblanks hch
  rw [hadvance]
  exact htoken queue m hat

/-- A lexeme of a single token. -/
theorem At.yields_token {depth' : Nat} {named' : Bool} {t : Token} (hch : Solid (ch :: cs))
    (hstep : ∀ queue (l : Lexer), l.At depth named queue (ch :: cs) →
      ∃ m, l.token? ch = some m ∧ m.At depth' named' (queue ++ [t]) rest)
    (hmore : ∀ queue (l : Lexer), l.At depth' named' queue rest → l.Yields (queue ++ ts) (queue.length + n))
    (hblanks : Spaced blanks) (h : l.At depth named queue (blanks ++ ch :: cs)) :
    l.Yields (queue ++ t :: ts) (queue.length + (n + 2)) := by
  refine At.yields_sign hch (fun queue l hl => ?_) hblanks h
  obtain ⟨m, hm, hat⟩ := hstep queue l hl
  have hyields := hmore _ _ hat
  rw [List.append_assoc, List.length_append, Nat.add_assoc, Nat.add_comm _ n] at hyields
  exact ⟨m, hm, hyields⟩

theorem AtColon.yields (hmore : ∀ queue (l : Lexer), l.At (depth + 1) false queue rest →
      l.Yields (queue ++ ts) (queue.length + n)) (h : l.AtColon depth s queue rest) :
    l.Yields (queue ++ (.key :: .scalar s false :: .value :: ts)) (queue.length + (n + 4)) := by
  refine yields_of_advance (fun queue l => l.AtColon depth s queue rest) (fun _ _ h => h.dropStale?)
    (fun _ _ h hheld => h.give hheld) (fun queue l h => ?_) h
  obtain ⟨m, hm, hat⟩ := h.advance?
  refine ⟨m, hm, ?_⟩
  have hyields := hmore _ _ hat
  rw [List.append_assoc, List.length_append, Nat.add_assoc, Nat.add_comm _ n] at hyields
  exact hyields

/-- Whatever begins with a quote or a sign is no white space. -/
theorem solid_cons (hch : ch ∈ ['"', ',', '[', ']', '{', '}']) : Solid (ch :: cs) := by
  simp only [List.mem_cons, List.not_mem_nil, or_false] at hch
  rcases hch with rfl | rfl | rfl | rfl | rfl | rfl <;> simp [Solid, isGap, isBreak]

/-- The number of steps that a text of lexemes takes, its end included. -/
def steps (xs : List Lexeme) : Nat := 5 * xs.length + 2

/-- **In a state between two lexemes, all lexemes that follow are given out.** -/
theorem yields_laid (hxs : Nested depth named xs) (hcs : Laid xs cs) (h : l.At depth named queue cs) :
    l.Yields (queue ++ (xs.flatMap Lexeme.tokens ++ [.streamEnd])) (queue.length + steps xs) := by
  induction hxs generalizing l queue cs with
  | nil =>
      cases hcs with | nil hblanks =>
      refine h.yields fun queue l hl => ?_
      obtain ⟨m, hat, hadvance⟩ := hl.advance?_end hblanks
      obtain ⟨next, hnext, hqueue, hkeys⟩ := hat.finish?
      exact ⟨next, hadvance.trans hnext, yields_queue hqueue hkeys hl.unended⟩
  | opening kind _ ih =>
      cases hcs with | cons hblanks hmore =>
      have hsign {ds : List Char} : Solid (kind.openingSign :: ds) := solid_cons (by cases kind <;> decide)
      exact (At.yields_token hsign (fun _ _ h => h.opening) (fun _ _ h => ih hmore h) hblanks h).mono (by
        simp only [steps, List.length_cons]; omega)
  | closing kind _ ih =>
      cases hcs with | cons hblanks hmore =>
      have hsign {ds : List Char} : Solid (kind.closingSign :: ds) := solid_cons (by cases kind <;> decide)
      exact (At.yields_token hsign (fun _ _ h => h.closing) (fun _ _ h => ih hmore h) hblanks h).mono (by
        simp only [steps, List.length_cons]; omega)
  | comma _ ih =>
      cases hcs with | cons hblanks hmore =>
      have hsign {ds : List Char} : Solid (',' :: ds) := solid_cons (by decide)
      exact (At.yields_token hsign (fun _ _ h => h.comma) (fun _ _ h => ih hmore h) hblanks h).mono (by
        simp only [steps, List.length_cons]; omega)
  | @name _ _ more hs _ ih =>
      cases hcs with | cons hblanks hmore =>
      rw [Lexeme.write, List.append_assoc] at h
      refine At.yields_sign (n := steps more + 4) (solid_cons (by decide)) (fun queue l hl => ?_) hblanks h
      obtain ⟨m, hm, hcolon⟩ := At.name hs hl
      exact ⟨m, hm, hcolon.yields fun _ _ h => ih hmore h⟩
  | text hs _ ih =>
      cases hcs with | cons hblanks hmore =>
      exact (At.yields_token (solid_cons (by decide)) (fun _ _ h => h.text hs) (fun _ _ h => ih hmore h)
        hblanks h).mono (by simp only [steps, List.length_cons]; omega)

end Lexer

/-- **The tokens of a text of lexemes are the tokens of the lexemes.** -/
theorem tokens_laid {xs : List Lexeme} {text : List Char} (hxs : Nested 0 true xs) (h : Laid xs text) :
    tokens text = (xs.flatMap Lexeme.tokens ++ [.streamEnd], true) := by
  have hyields := Lexer.yields_laid hxs h (Lexer.at_start text)
  rw [tokens, if_pos (isPrintable_laid hxs h)]
  have hlength := h.length_le
  refine hyields _ ?_
  rw [List.length_nil, Lexer.steps]
  omega

end BuilderAudit.Yaml
