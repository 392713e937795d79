import BuilderAudit.Proofs.Json.Words

/-!
# JSON values there and back

A reader of JSON texts in which all numbers are natural, with blanks, escapes and members as JSON has them. What
`pretty` writes over several lines is read as the same value.

* `Json.parse?` : the value of a text;
* `chain` : elements one below the other, with commas between them; items and members are both written so
  (`prettyItems_eq`, `prettyMembers_eq`) and read back by one law (`elements?_chain`);
* `value?_pretty`, `parse?_pretty` : a value is read as it is written.
-/

namespace BuilderAudit.Json

variable {α : Type}

/-! ## Reading -/

/-- How deeply arrays and objects may be nested. -/
def depthLimit : Nat := 127

/-- Reads elements up to the closing sign, behind the ones in `done`, which are in reverse. -/
def elements? (read : List Char → Option (α × List Char)) (close : Char) (done : List α) (cs : List Char) :
    Option (List α × List Char) :=
  match read cs with
  | none => none
  | some (x, rest) =>
    match next? close rest with
    | none => none
    | some (true, rest) => some ((x :: done).reverse, rest)
    | some (false, rest) =>
      if rest.length < cs.length then elements? read close (x :: done) rest else none
termination_by cs.length

def listed? (read : List Char → Option (α × List Char)) (close : Char) (cs : List Char) : Option (List α × List Char) :=
  match skipSpace cs with
  | [] => none
  | c :: cs => if c = close then some ([], cs) else elements? read close [] (c :: cs)

def member? (value : List Char → Option (Json × List Char)) (cs : List Char) :
    Option ((String × Json) × List Char) :=
  match skipSpace cs with
  | '"' :: cs => do
    let (key, rest) ← string? cs
    match skipSpace rest with
    | ':' :: rest =>
      let (v, rest) ← value rest
      return ((String.ofList key, v), rest)
    | _ => none
  | _ => none

/-- Reads a value that is neither an array nor an object. -/
def atom? (cs : List Char) : Option (Json × List Char) :=
  match cs with
  | '"' :: cs => (string? cs).map fun (s, rest) => (string (String.ofList s), rest)
  | 'n' :: _ => (word? "null".toList cs).map fun rest => (null, rest)
  | 't' :: _ => (word? "true".toList cs).map fun rest => (bool true, rest)
  | 'f' :: _ => (word? "false".toList cs).map fun rest => (bool false, rest)
  | cs => (natural? cs).map fun (n, rest) => (number n, rest)

/-- Reads a value that is nested as deeply as is allowed at most. -/
def value? : (depth : Nat) → List Char → Option (Json × List Char)
  | 0, cs => atom? (skipSpace cs)
  | depth + 1, cs =>
    match skipSpace cs with
    | '[' :: cs => (listed? (value? depth) ']' cs).map fun (items, rest) => (array items, rest)
    | '{' :: cs => (listed? (member? (value? depth)) '}' cs).map fun (members, rest) => (object members, rest)
    | cs => atom? cs

/-- The value of a JSON text. Nothing but blanks may follow it. -/
def parse? (cs : List Char) : Option Json := do
  let (j, rest) ← value? depthLimit cs
  if (skipSpace rest).isEmpty then return j else none

/-! ## Elements one below the other -/

/-- Elements written one after the other, each behind `indent`, with commas between them and `closing` at the end. -/
def chain (write : α → List Char) (indent closing : List Char) : List α → List Char
  | [] => closing
  | [x] => indent ++ write x ++ closing
  | x :: xs => indent ++ write x ++ ',' :: chain write indent closing xs

def afterElement (write : α → List Char) (indent closing : List Char) (xs : List α) : List Char :=
  if xs.isEmpty then closing else ',' :: chain write indent closing xs

section Chain

variable {write : α → List Char} {indent closing : List Char} {x : α} {xs : List α}

theorem chain_cons :
    chain write indent closing (x :: xs) = indent ++ write x ++ afterElement write indent closing xs := by
  cases xs with
  | nil => rfl
  | cons y ys => rfl

theorem afterElement_cons : afterElement write indent closing (x :: xs) =
    ',' :: (indent ++ write x ++ afterElement write indent closing xs) := by
  rw [← chain_cons]
  rfl

end Chain

def prettyMember (depth : Nat) (m : String × Json) : List Char := quoted m.1.toList ++ ':' :: ' ' :: m.2.pretty depth

theorem prettyItems_eq (depth : Nat) (items : List Json) :
    prettyItems depth items = chain (pretty (depth + 1)) (newline (depth + 1)) (newline depth ++ [']']) items := by
  induction items with
  | nil => rfl
  | cons item items ih =>
      cases items with
      | nil =>
          rw [prettyItems, chain]
          simp only [List.append_assoc]
      | cons second items =>
          show newline (depth + 1) ++ item.pretty (depth + 1) ++ ',' :: prettyItems depth (second :: items) = _
          rw [ih]
          rfl

theorem prettyMembers_eq (depth : Nat) (members : List (String × Json)) :
    prettyMembers depth members =
      chain (prettyMember (depth + 1)) (newline (depth + 1)) (newline depth ++ ['}']) members := by
  induction members with
  | nil => rfl
  | cons m members ih =>
      cases members with
      | nil =>
          rw [prettyMembers, chain, prettyMember]
          simp only [List.append_assoc, List.cons_append]
      | cons second members =>
          show newline (depth + 1) ++ quoted m.1.toList ++ ':' :: ' ' :: m.2.pretty (depth + 1) ++ ',' ::
            prettyMembers depth (second :: members) = _
          rw [ih]
          generalize htext : chain _ _ _ (second :: members) = text
          show _ = newline (depth + 1) ++ prettyMember (depth + 1) m ++ ',' :: chain _ _ _ (second :: members)
          rw [htext, prettyMember]
          simp only [List.append_assoc, List.cons_append]

/-! ## Elements there and back -/

/-- What is written is read as the same element. -/
def ReadsBack (read : List Char → Option (α × List Char)) (write : α → List Char) (x : α) : Prop :=
  ∀ rest, EndsNumber rest → read (write x ++ rest) = some (x, rest)

theorem endsNumber_cons {c : Char} {cs : List Char} (h : extendsNumber c = false) : EndsNumber (c :: cs) := by
  rintro _ ⟨⟩
  exact h

section Elements

variable {read : List Char → Option (α × List Char)} {write : α → List Char} {close : Char} {blanks : Nat} {x : α}
  {xs : List α} {rest : List Char}

/-- Elements are read as they are written, if each of them is. -/
theorem elements?_chain (depth : Nat) (rest : List Char) (hclose : close ≠ ',' ∧ isSpace close = false)
    (hread : ∀ y ∈ x :: xs, ReadsBack read write y) (hstart : ∀ y ∈ x :: xs, StartsElement close (write y))
    (done : List α) :
    elements? read close done
        (write x ++ (afterElement write (newline (depth + 1)) (newline depth ++ [close]) xs ++ rest)) =
      some (done.reverse ++ x :: xs, rest) := by
  induction xs generalizing x done with
  | nil =>
      have hx : ReadsBack read write x := hread x List.mem_cons_self
      have hends : EndsNumber (newline depth ++ close :: rest) := endsNumber_cons (by decide)
      have hend := next?_close (blank_newline depth) hclose.2 rest
      show elements? read close done (write x ++ (newline depth ++ [close] ++ rest)) = _
      rw [List.append_assoc (newline depth), List.singleton_append, elements?, hx _ hends]
      simp only [hend, List.reverse_cons]
  | cons y ys ih =>
      have hx : ReadsBack read write x := hread x List.mem_cons_self
      obtain ⟨hy, hys⟩ := List.forall_mem_cons.mp (List.forall_mem_cons.mp hread).2
      have hstart' := (List.forall_mem_cons.mp hstart).2
      generalize htext : afterElement write (newline (depth + 1)) (newline depth ++ [close]) (y :: ys) ++ rest = text
      have hends : EndsNumber text := by
        rw [← htext, afterElement_cons]
        exact endsNumber_cons (by decide)
      have hnext : next? close text = some (false,
          write y ++ (afterElement write (newline (depth + 1)) (newline depth ++ [close]) ys ++ rest)) := by
        obtain ⟨c, more, hy, hspace, hne⟩ := hstart' y List.mem_cons_self
        have hskip := skipSpace_of_head hspace
          (more ++ (afterElement write (newline (depth + 1)) (newline depth ++ [close]) ys ++ rest))
        rw [← List.cons_append, ← hy] at hskip
        rw [← htext, afterElement_cons, List.cons_append, List.append_assoc, List.append_assoc,
          ← List.nil_append (',' :: _), next?_comma .nil hclose.1] <;> rw [skipSpace_newline, hskip]
        exact ⟨c, _, by rw [hy, List.cons_append], hspace, hne⟩
      have hlength : (write y ++
          (afterElement write (newline (depth + 1)) (newline depth ++ [close]) ys ++ rest)).length <
          (write x ++ text).length := by
        have hshorter := length_next? hnext
        have hlonger : (write x ++ text).length = (write x).length + text.length := List.length_append
        omega
      rw [elements?, hx _ hends]
      simp only [hnext, if_pos hlength]
      rw [ih (List.forall_mem_cons.mpr ⟨hy, hys⟩) hstart', List.reverse_cons, List.append_assoc]
      rfl

theorem listed?_chain (depth : Nat) (rest : List Char) (hclose : close ≠ ',' ∧ isSpace close = false)
    (hread : ∀ y ∈ xs, ReadsBack read write y) (hstart : ∀ y ∈ xs, StartsElement close (write y)) :
    listed? read close (chain write (newline (depth + 1)) (newline depth ++ [close]) xs ++ rest) = some (xs, rest) := by
  cases xs with
  | nil =>
      rw [chain, listed?, List.append_assoc, skipSpace_newline, List.singleton_append, skipSpace_of_head hclose.2]
      simp
  | cons x xs =>
      obtain ⟨c, more, hc, hspace, hne⟩ := hstart x List.mem_cons_self
      have helements := elements?_chain depth rest hclose hread hstart []
      rw [chain_cons, listed?, List.append_assoc, List.append_assoc, skipSpace_newline]
      rw [hc, List.cons_append] at helements ⊢
      simp only [skipSpace_of_head hspace, if_neg hne, helements, List.reverse_nil, List.nil_append]

end Elements

/-! ## Values there and back -/

variable {j : Json} {rest : List Char}

theorem atom?_quote (cs : List Char) :
    atom? ('"' :: cs) = (string? cs).map fun (s, rest) => (string (String.ofList s), rest) := rfl

theorem atom?_digit {c : Char} (h : c.isDigit = true) (cs : List Char) :
    atom? (c :: cs) = (natural? (c :: cs)).map fun (n, rest) => (number n, rest) := by
  unfold atom?
  split
  · next heq =>
    cases heq
    cases h
  · next heq =>
    cases heq
    cases h
  · next heq =>
    cases heq
    cases h
  · next heq =>
    cases heq
    cases h
  · rfl

/-- What neither opens an array nor an object is read as an atom. -/
theorem value?_atom {c : Char} (hspace : isSpace c = false) (harray : c ≠ '[') (hobject : c ≠ '{') (depth : Nat)
    (cs : List Char) : value? depth (c :: cs) = atom? (c :: cs) := by
  cases depth with
  | zero => rw [value?, skipSpace_of_head hspace]
  | succ depth =>
      rw [value?, skipSpace_of_head hspace]
      split
      · next heq => exact absurd (List.cons.inj heq).1 harray
      · next heq => exact absurd (List.cons.inj heq).1 hobject
      · rfl

theorem decimal_starts (n : Nat) : ∃ c more, decimal n = c :: more ∧ c.isDigit = true := by
  cases h : decimal n with
  | nil => exact absurd h Nat.toDigits_ne_nil
  | cons c more =>
      refine ⟨c, more, rfl, Nat.isDigit_of_mem_toDigits (b := 10) (n := n) (by decide) (by decide) ?_⟩
      rw [show Nat.toDigits 10 n = c :: more from h]
      exact List.mem_cons_self

theorem ne_of_isDigit {c d : Char} (hc : c.isDigit = true) (hd : d.isDigit = false) : c ≠ d := by
  rintro rfl
  rw [hc] at hd
  cases hd

theorem isSpace_of_isDigit {c : Char} (h : c.isDigit = true) : isSpace c = false := by
  unfold isSpace
  simp only [Bool.or_eq_false_iff, decide_eq_false_iff_not]
  exact ⟨⟨⟨ne_of_isDigit h rfl, ne_of_isDigit h rfl⟩, ne_of_isDigit h rfl⟩, ne_of_isDigit h rfl⟩

theorem pretty_starts (j : Json) (depth : Nat) : StartsElement ']' (j.pretty depth) := by
  cases j with
  | null => exact ⟨'n', _, rfl, by decide, by decide⟩
  | bool b =>
      cases b with
      | true => exact ⟨'t', _, rfl, by decide, by decide⟩
      | false => exact ⟨'f', _, rfl, by decide, by decide⟩
  | number n =>
      obtain ⟨c, more, hc, hdigit⟩ := decimal_starts n
      exact ⟨c, more, hc, isSpace_of_isDigit hdigit, ne_of_isDigit hdigit rfl⟩
  | string s => exact ⟨'"', _, rfl, by decide, by decide⟩
  | array items => cases items <;> exact ⟨'[', _, rfl, by decide, by decide⟩
  | object members => cases members <;> exact ⟨'{', _, rfl, by decide, by decide⟩

theorem prettyMember_starts (m : String × Json) (depth : Nat) : StartsElement '}' (prettyMember depth m) :=
  ⟨'"', _, rfl, by decide, by decide⟩

/-- A member is read as it is written if its value is. -/
theorem readsBack_member {value : List Char → Option (Json × List Char)} {depth : Nat} {m : String × Json}
    (h : ReadsBack value (pretty depth) m.2) (hblank : ∀ cs, value (' ' :: cs) = value cs) :
    ReadsBack (member? value) (prettyMember depth) m := by
  intro rest hrest
  have htext : prettyMember depth m ++ rest =
      '"' :: (m.1.toList.flatMap escapeChar ++ '"' :: ':' :: ' ' :: (m.2.pretty depth ++ rest)) := by
    rw [prettyMember, List.append_assoc, quoted_append]
    rfl
  rw [htext, member?, skipSpace_of_head (by decide)]
  simp only [string?_quoted, Option.bind_eq_bind, Option.bind_some, skipSpace_of_head (c := ':') (by decide), hblank,
    h rest hrest, String.ofList_toList, Option.pure_def]

theorem value?_blank (depth : Nat) (cs : List Char) : value? depth (' ' :: cs) = value? depth cs := by
  have hskip : skipSpace (' ' :: cs) = skipSpace cs := rfl
  cases depth with
  | zero => rw [value?, value?, hskip]
  | succ depth => rw [value?, value?, hskip]

mutual

/-- How deeply arrays and objects are nested in a value. -/
def depth : Json → Nat
  | null | bool _ | number _ | string _ => 0
  | array items => itemsDepth items + 1
  | object members => membersDepth members + 1
termination_by structural j => j

def itemsDepth : List Json → Nat
  | [] => 0
  | item :: items => max item.depth (itemsDepth items)
termination_by structural items => items

def membersDepth : List (String × Json) → Nat
  | [] => 0
  | (_, value) :: members => max value.depth (membersDepth members)
termination_by structural members => members

end

theorem readsBack_number (n k depth : Nat) : ReadsBack (value? depth) (pretty k) (number n) := by
  intro rest hrest
  obtain ⟨c, more, hc, hdigit⟩ := decimal_starts n
  have hread := natural?_decimal n hrest
  show value? depth (decimal n ++ rest) = _
  rw [hc, List.cons_append] at hread ⊢
  rw [value?_atom (isSpace_of_isDigit hdigit) (ne_of_isDigit hdigit rfl) (ne_of_isDigit hdigit rfl), atom?_digit hdigit,
    hread]
  rfl

theorem readsBack_string (s : String) (k depth : Nat) : ReadsBack (value? depth) (pretty k) (string s) := by
  intro rest _
  show value? depth (quoted s.toList ++ rest) = _
  rw [quoted_append, value?_atom (by decide) (by decide) (by decide), atom?_quote, string?_quoted]
  simp

theorem readsBack_array {items : List Json} {depth k : Nat}
    (h : ∀ j ∈ items, ReadsBack (value? depth) (pretty (k + 1)) j) :
    ReadsBack (value? (depth + 1)) (pretty k) (array items) := by
  intro rest _
  cases items with
  | nil =>
      show value? (depth + 1) ('[' :: ']' :: rest) = _
      rw [value?, skipSpace_of_head (by decide)]
      rfl
  | cons item items =>
      have hclose : ']' ≠ ',' ∧ isSpace ']' = false := by decide
      have hlisted := listed?_chain k rest hclose h
        fun j _ => pretty_starts j (k + 1)
      show value? (depth + 1) ('[' :: (prettyItems k (item :: items) ++ rest)) = _
      rw [value?, skipSpace_of_head (by decide), prettyItems_eq]
      simp only [hlisted, Option.map_some]

theorem readsBack_object {members : List (String × Json)} {depth k : Nat}
    (h : ∀ m ∈ members, ReadsBack (value? depth) (pretty (k + 1)) m.2) :
    ReadsBack (value? (depth + 1)) (pretty k) (object members) := by
  intro rest _
  cases members with
  | nil =>
      show value? (depth + 1) ('{' :: '}' :: rest) = _
      rw [value?, skipSpace_of_head (by decide)]
      rfl
  | cons m members =>
      have hclose : '}' ≠ ',' ∧ isSpace '}' = false := by decide
      have hlisted := listed?_chain k rest hclose
        (fun m hm => readsBack_member (h m hm) (value?_blank depth)) fun m _ => prettyMember_starts m (k + 1)
      show value? (depth + 1) ('{' :: (prettyMembers k (m :: members) ++ rest)) = _
      rw [value?, skipSpace_of_head (by decide), prettyMembers_eq]
      simp only [hlisted, Option.map_some]

mutual

/-- A value is read as it is written. -/
theorem value?_pretty : ∀ (j : Json) (k depth : Nat), j.depth ≤ depth → ReadsBack (value? depth) (pretty k) j
  | null, _, depth, _ => fun rest _ => value?_atom (by decide) (by decide) (by decide) depth ('u' :: 'l' :: 'l' :: rest)
  | bool true, _, depth, _ =>
      fun rest _ => value?_atom (by decide) (by decide) (by decide) depth ('r' :: 'u' :: 'e' :: rest)
  | bool false, _, depth, _ =>
      fun rest _ => value?_atom (by decide) (by decide) (by decide) depth ('a' :: 'l' :: 's' :: 'e' :: rest)
  | number n, k, depth, _ => readsBack_number n k depth
  | string s, k, depth, _ => readsBack_string s k depth
  | array items, k, depth + 1, h => readsBack_array (items_pretty items (k + 1) depth (Nat.le_of_succ_le_succ h))
  | object members, k, depth + 1, h =>
      readsBack_object (members_pretty members (k + 1) depth (Nat.le_of_succ_le_succ h))

theorem items_pretty : ∀ (items : List Json) (k depth : Nat), itemsDepth items ≤ depth →
    ∀ j ∈ items, ReadsBack (value? depth) (pretty k) j
  | [], _, _, _ => fun _ h => absurd h List.not_mem_nil
  | item :: items, k, depth, h =>
      have hle := Nat.max_le.mp h
      List.forall_mem_cons.mpr ⟨value?_pretty item k depth hle.1, items_pretty items k depth hle.2⟩

theorem members_pretty : ∀ (members : List (String × Json)) (k depth : Nat), membersDepth members ≤ depth →
    ∀ m ∈ members, ReadsBack (value? depth) (pretty k) m.2
  | [], _, _, _ => fun _ h => absurd h List.not_mem_nil
  | (_, value) :: members, k, depth, h =>
      have hle := Nat.max_le.mp h
      List.forall_mem_cons.mpr ⟨value?_pretty value k depth hle.1, members_pretty members k depth hle.2⟩

end

/-- A text that is written over several lines has the value that it is written for. -/
theorem parse?_pretty {j : Json} (h : j.depth ≤ depthLimit) : parse? (j.pretty 0 ++ ['\n']) = some j := by
  have hvalue := value?_pretty j 0 depthLimit h ['\n'] (endsNumber_cons (by decide))
  rw [parse?, hvalue]
  rfl

end BuilderAudit.Json
