import BuilderAudit.Pattern.Escape

/-!
# Classes in patterns

`bracketed` reads a class from behind its opening bracket. Brackets that are open are kept on a list, the innermost
first, each with its items so far and with the left operand of an operation that still waits for its right one.

Every item takes at least one character (`length_lt_of_classItem`), so the reader comes to an end.
-/

namespace BuilderAudit.Pattern

/-- A class whose closing bracket has not been reached. -/
structure OpenClass where
  negated : Bool
  /-- The operation that waits for its right operand, with the left one. -/
  pending : Option (ClassOp × ClassSet)
  /-- The items read so far, the last one first. -/
  items : List ClassSet

namespace OpenClass

def add (o : OpenClass) (item : ClassSet) : OpenClass := { o with items := item :: o.items }

def content (o : OpenClass) : ClassSet :=
  let items := ClassSet.ofItems o.items.reverse
  match o.pending with
  | none => items
  | some (op, left) => .combine op left items

def operate (o : OpenClass) (op : ClassOp) : OpenClass := { o with pending := some (op, o.content), items := [] }

end OpenClass

/-- Reads hyphens that open a class, which stand for themselves. -/
def leadingHyphens (spaced : Bool) (o : OpenClass) : List Char → OpenClass × List Char
  | [] => (o, [])
  | c :: cs =>
    if c == '-' then leadingHyphens spaced (o.add (.literal '-')) (skipBlanks spaced cs) else (o, c :: cs)
termination_by cs => cs.length
decreasing_by
  have := length_skipBlanks_le spaced cs
  simp only [List.length_cons]
  omega

theorem length_leadingHyphens_le (spaced : Bool) (o : OpenClass) (cs : List Char) :
    (leadingHyphens spaced o cs).2.length ≤ cs.length := by
  fun_induction leadingHyphens spaced o cs <;> grind [length_skipBlanks_le]

/-- Reads what may follow an opening bracket: a caret, hyphens, and a closing bracket that stands for itself if it comes
first. -/
def openClass (spaced : Bool) (cs : List Char) : OpenClass × List Char :=
  let (negated, cs) := match skipBlanks spaced cs with
    | '^' :: rest => (true, skipBlanks spaced rest)
    | cs => (false, cs)
  match leadingHyphens spaced ⟨negated, none, []⟩ cs with
  | (o, ']' :: rest) => if o.items.isEmpty then (o.add (.literal ']'), skipBlanks spaced rest) else (o, ']' :: rest)
  | (o, cs) => (o, cs)

theorem length_openClass_le (spaced : Bool) (cs : List Char) : (openClass spaced cs).2.length ≤ cs.length := by
  unfold openClass
  grind [length_skipBlanks_le, length_leadingHyphens_le]

/-- Reads the name of a named class with the `:]` behind it. -/
def className? (negated : Bool) (cs : List Char) : Option (ClassSet × List Char) :=
  match cs.dropWhile (· != ':') with
  | ':' :: ']' :: rest =>
    (AsciiClass.ofName? (String.ofList (cs.takeWhile (· != ':')))).map fun kind => (.ascii kind negated, rest)
  | _ => none

/-- Reads a named class `[:name:]` from behind its bracket, if there is one. -/
def namedClass? : List Char → Option (ClassSet × List Char)
  | ':' :: '^' :: cs => className? true cs
  | ':' :: cs => className? false cs
  | _ => none

theorem length_lt_of_className? {negated : Bool} {cs rest : List Char} {item : ClassSet}
    (h : className? negated cs = some (item, rest)) : rest.length < cs.length := by
  have hd := (List.dropWhile_sublist (fun c => c != ':') (l := cs)).length_le
  unfold className? at h
  split at h
  · obtain ⟨kind, _, he⟩ := Option.map_eq_some_iff.1 h
    grind
  · simp at h

theorem length_lt_of_namedClass? {cs rest : List Char} {item : ClassSet} (h : namedClass? cs = some (item, rest)) :
    rest.length < cs.length := by
  unfold namedClass? at h
  grind [→ length_lt_of_className?]

/-- Reads one character, or one escape. -/
def classPrimitive (spaced : Bool) : Reader Error Ast
  | [] => .error .unclosedClass
  | c :: cs => if c == '\\' then escape spaced cs else .ok (.literal c false, cs)

def classItemOf : Ast → Except Error ClassSet
  | .literal c _ => .ok (.literal c)
  | .escape kind negated => .ok (.escape kind negated)
  | .property query negated => .ok (.property query negated)
  | _ => .error .badClassItem

def classRangeOf : Ast → Ast → Except Error ClassSet
  | .literal a _, .literal b _ => if a ≤ b then .ok (.range a b) else .error .badRange
  | _, _ => .error .badRange

/-- Reads one item of a class: a character, an escape, or a range between two characters. -/
def classItem (spaced : Bool) : Reader Error ClassSet := fun cs => do
  let (first, cs) ← classPrimitive spaced cs
  match skipBlanks spaced cs with
  | [] => .error .unclosedClass
  | c :: rest =>
    if c != '-' || peekPastBlanks spaced rest == some ']' || peekPastBlanks spaced rest == some '-' then
      return (← classItemOf first, c :: rest)
    else
      let (last, rest) ← classPrimitive spaced (skipBlanks spaced rest)
      return (← classRangeOf first last, rest)

theorem length_lt_of_classPrimitive {spaced : Bool} {cs rest : List Char} {a : Ast}
    (h : classPrimitive spaced cs = .ok (a, rest)) : rest.length < cs.length := by
  have he := @escape_shrinks spaced
  unfold Reader.Shrinks at he
  unfold classPrimitive at h
  grind

theorem length_lt_of_classItem {spaced : Bool} {cs rest : List Char} {item : ClassSet}
    (h : classItem spaced cs = .ok (item, rest)) : rest.length < cs.length := by
  unfold classItem at h
  obtain ⟨⟨a, r⟩, ha, h⟩ := bind_eq_ok_iff.1 h
  have := length_lt_of_classPrimitive ha
  have := length_skipBlanks_le spaced r
  simp only at h
  split at h
  · simp at h
  · split at h
    · obtain ⟨i, hi, h⟩ := bind_eq_ok_iff.1 h
      grind [pure_eq_ok_iff]
    · obtain ⟨⟨b, r'⟩, hb, h⟩ := bind_eq_ok_iff.1 h
      obtain ⟨i, hi, h⟩ := bind_eq_ok_iff.1 h
      have := length_lt_of_classPrimitive hb
      grind [pure_eq_ok_iff, length_skipBlanks_le]

/-- Reads on in the class `cur`, `outer` being the classes around it, and returns the outermost class. -/
def classBody (spaced : Bool) (cur : OpenClass) (outer : List OpenClass) (cs : List Char) :
    Except Error (Ast × List Char) :=
  match _hs : skipBlanks spaced cs with
  | [] => .error .unclosedClass
  | '[' :: rest =>
    match _hn : namedClass? rest with
    | some (item, rest) => classBody spaced (cur.add item) outer rest
    | none => classBody spaced (openClass spaced rest).1 (cur :: outer) (openClass spaced rest).2
  | ']' :: rest =>
    match outer with
    | [] => .ok (.bracketed cur.content cur.negated, rest)
    | o :: outer => classBody spaced (o.add (.bracketed cur.content cur.negated)) outer rest
  | '&' :: '&' :: rest => classBody spaced (cur.operate .inter) outer rest
  | '-' :: '-' :: rest => classBody spaced (cur.operate .diff) outer rest
  | '~' :: '~' :: rest => classBody spaced (cur.operate .symmDiff) outer rest
  | c :: rest =>
    match _hi : classItem spaced (c :: rest) with
    | .error e => .error e
    | .ok (item, rest) => classBody spaced (cur.add item) outer rest
termination_by cs.length
decreasing_by
  all_goals
    have := length_skipBlanks_le spaced cs
    rw [_hs] at this
    grind [→ length_lt_of_namedClass?, length_openClass_le, → length_lt_of_classItem]

def bracketed (spaced : Bool) : Reader Error Ast := fun cs =>
  classBody spaced (openClass spaced cs).1 [] (openClass spaced cs).2

theorem classBody_shrinks (spaced : Bool) (cur : OpenClass) (outer : List OpenClass) :
    Reader.Shrinks (classBody spaced cur outer) := by
  intro cs a rest h
  have hs := length_skipBlanks_le spaced cs
  fun_induction classBody spaced cur outer cs <;>
    grind [length_skipBlanks_le, → length_lt_of_namedClass?, length_openClass_le, → length_lt_of_classItem]

theorem bracketed_shrinks (spaced : Bool) : (bracketed spaced).Shrinks := by
  intro cs a rest h
  have := classBody_shrinks spaced _ _ h
  have := length_openClass_le spaced cs
  omega

end BuilderAudit.Pattern
