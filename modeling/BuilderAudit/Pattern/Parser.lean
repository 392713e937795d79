import BuilderAudit.Pattern.Class

/-!
# Reading patterns

A pattern is read from left to right. `Progress` keeps what has been read: the items of the current branch, the branches
before it, and one `OpenGroup` for each group that is not closed. `Progress.step` reads one item, sign or parenthesis
and always takes at least one character (`Progress.length_step_le`), so `Progress.run` comes to an end.

* `parse` : the syntax tree of a text, or why there is none.
-/

namespace BuilderAudit.Pattern

def nestingLimit : Nat := 250

/-! ## Counts -/

/-- Reads decimal digits, blanks after each of them skipped; `value` is what the digits before came to. -/
def digitsFrom (spaced : Bool) (value : Option Nat) : List Char → Option Nat × List Char
  | [] => (value, [])
  | c :: cs =>
    if c.isDigit then digitsFrom spaced (some (value.getD 0 * 10 + (c.toNat - '0'.toNat))) (skipBlanks spaced cs)
    else (value, c :: cs)
termination_by cs => cs.length
decreasing_by
  have := length_skipBlanks_le spaced cs
  simp only [List.length_cons]
  omega

theorem length_digitsFrom_le (spaced : Bool) (value : Option Nat) (cs : List Char) :
    (digitsFrom spaced value cs).2.length ≤ cs.length := by
  fun_induction digitsFrom spaced value cs <;> grind [length_skipBlanks_le]

/-- Reads a count below 2³², with white space around it. -/
def count (spaced : Bool) : Reader Error Nat := fun cs =>
  match digitsFrom spaced none (cs.dropWhile isBlank) with
  | (none, _) => .error .badCount
  | (some n, rest) => if n < Nat.pow 2 32 then .ok (n, rest.dropWhile isBlank) else .error .badCount

theorem count_shrinks (spaced : Bool) : (count spaced).Shrinks := by
  intro cs n rest h
  have hc := (List.dropWhile_sublist isBlank (l := cs)).length_le
  have hd := length_digitsFrom_le spaced none (cs.dropWhile isBlank)
  unfold count at h
  split at h
  · simp at h
  · rename_i m r heq
    have hr := (List.dropWhile_sublist isBlank (l := r)).length_le
    grind

/-- Drops a question mark, which makes a repetition lazy. -/
def dropLazy : List Char → List Char
  | '?' :: rest => rest
  | cs => cs

theorem length_dropLazy_le (cs : List Char) : (dropLazy cs).length ≤ cs.length := by
  unfold dropLazy
  split <;> simp

/-- Reads what follows the least count: nothing, a comma, or a comma and the greatest count. -/
def countsFrom (spaced : Bool) (least : Nat) : Reader Error (Option Nat) := fun cs =>
  match cs with
  | '}' :: rest => .ok (some least, rest)
  | ',' :: rest =>
    match skipBlanks spaced rest with
    | '}' :: rest => .ok (none, rest)
    | rest => do
      let (greatest, rest) ← count spaced rest
      match rest with
      | '}' :: rest => if least ≤ greatest then .ok (some greatest, rest) else .error .badCount
      | _ => .error .badCount
  | _ => .error .badCount

theorem countsFrom_shrinks (spaced : Bool) (least : Nat) : (countsFrom spaced least).Shrinks := by
  intro cs m rest h
  unfold countsFrom at h
  split at h
  · grind
  · rename_i r
    have := length_skipBlanks_le spaced r
    split at h
    · grind
    · obtain ⟨⟨n, r'⟩, hn, h⟩ := bind_eq_ok_iff.1 h
      have := count_shrinks _ hn
      simp only at h
      split at h <;> grind
  · simp at h

/-- Reads the counts of a repetition from behind their opening brace. -/
def counts (spaced : Bool) : Reader Error (Nat × Option Nat) := fun cs => do
  let (least, rest) ← count spaced (skipBlanks spaced cs)
  let (greatest, rest) ← countsFrom spaced least rest
  return ((least, greatest), dropLazy (skipBlanks spaced rest))

theorem counts_shrinks (spaced : Bool) : (counts spaced).Shrinks := by
  intro cs m rest h
  obtain ⟨⟨n, r⟩, hn, h⟩ := bind_eq_ok_iff.1 h
  obtain ⟨⟨g, r'⟩, hg, h⟩ := bind_eq_ok_iff.1 h
  have := count_shrinks _ hn
  have := countsFrom_shrinks _ _ hg
  have := length_skipBlanks_le spaced cs
  have := length_skipBlanks_le spaced r'
  have := length_dropLazy_le (skipBlanks spaced r')
  grind [pure_eq_ok_iff]

/-! ## Groups -/

/-- May the character stand in the name of a group? A name starts with a letter or an underscore. -/
def isGroupNameChar (isFirst : Bool) (c : Char) : Bool :=
  c == '_' || Property.alphabetic.containsChar c ||
    (!isFirst && (c == '.' || c == '[' || c == ']' || Property.numeric.containsChar c))

/-- Reads the name of a group up to its closing bracket. -/
def groupName : Reader Error (List Char) := fun cs =>
  let name := cs.takeWhile (· != '>')
  match cs.dropWhile (· != '>'), name with
  | '>' :: rest, first :: others =>
    if isGroupNameChar true first && others.all (isGroupNameChar false) then .ok (name, rest)
    else .error .badGroupName
  | _, _ => .error .badGroupName

theorem groupName_shrinks : groupName.Shrinks := by
  intro cs n rest h
  have hd := (List.dropWhile_sublist (fun c => c != '>') (l := cs)).length_le
  simp only [groupName] at h
  split at h <;> grind

def flagOf? : Char → Option Flag
  | 'i' => some .ignoreCase
  | 'm' => some .multiLine
  | 's' => some .dotAll
  | 'U' => some .swapGreed
  | 'u' => some .unicode
  | 'R' => some .crlf
  | 'x' => some .spaced
  | _ => none

/-- Reads flags up to a colon or a closing parenthesis, which is returned with them. A flag occurs once, a hyphen occurs
once, and a flag follows it. -/
def flagsFrom (change : FlagChange) (negated afterHyphen : Bool) : Reader Error (FlagChange × Char)
  | [] => .error .badFlags
  | c :: cs =>
    if c == ':' || c == ')' then
      if afterHyphen then .error .badFlags else .ok ((change, c), cs)
    else if c == '-' then
      if negated then .error .badFlags else flagsFrom change true true cs
    else
      match flagOf? c with
      | none => .error .badFlags
      | some flag =>
        if (change.state? flag).isSome then .error .badFlags
        else flagsFrom (change ++ [(flag, !negated)]) negated false cs

theorem flagsFrom_shrinks (change : FlagChange) (negated afterHyphen : Bool) :
    (flagsFrom change negated afterHyphen).Shrinks := by
  intro cs n rest h
  fun_induction flagsFrom change negated afterHyphen cs <;> grind

/-- What an opening parenthesis begins. -/
inductive GroupStart
  /-- Flags for the rest of the group around it. -/
  | flags (change : FlagChange)
  /-- A group without a capture. -/
  | plain (change : FlagChange)
  /-- A group with a capture, with the name if it has one. -/
  | capture (name : Option (List Char))

/-- Reads what follows an opening parenthesis. -/
def groupStart (spaced : Bool) : Reader Error GroupStart := fun cs =>
  match skipBlanks spaced cs with
  | '?' :: '=' :: _ | '?' :: '!' :: _ | '?' :: '<' :: '=' :: _ | '?' :: '<' :: '!' :: _ => .error .lookAround
  | '?' :: 'P' :: '<' :: rest | '?' :: '<' :: rest => do
    let (name, rest) ← groupName rest
    return (.capture (some name), rest)
  | '?' :: rest => do
    let ((change, close), rest) ← flagsFrom [] false false rest
    if close == ':' then return (.plain change, rest)
    else if change.isEmpty then .error .missingOperand
    else return (.flags change, rest)
  | rest => .ok (.capture none, rest)

theorem groupStart_shrinks (spaced : Bool) : (groupStart spaced).Shrinks := by
  intro cs g rest h
  have hs := length_skipBlanks_le spaced cs
  unfold groupStart at h
  split at h
  any_goals simp at h
  · rename_i r heq
    obtain ⟨⟨n, r'⟩, hn, h⟩ := bind_eq_ok_iff.1 h
    have := groupName_shrinks hn
    grind [pure_eq_ok_iff]
  · rename_i r heq _ _
    obtain ⟨⟨n, r'⟩, hn, h⟩ := bind_eq_ok_iff.1 h
    have := groupName_shrinks hn
    grind [pure_eq_ok_iff]
  · rename_i r heq _ _ _ _ _ _
    obtain ⟨⟨n, r'⟩, hn, h⟩ := bind_eq_ok_iff.1 h
    have := flagsFrom_shrinks _ _ _ hn
    grind [pure_eq_ok_iff]
  · grind

/-! ## Whole patterns -/

structure OpenGroup where
  change : FlagChange
  captures : Bool
  /-- The items before the group in its branch, the last one first. -/
  items : List Ast
  /-- The branches before that branch, the last one first. -/
  branches : List Ast
  /-- Were blanks skipped before the group? -/
  spaced : Bool

structure Progress where
  /-- The open groups, the innermost first. -/
  groups : List OpenGroup
  /-- The items of the current branch, the last one first. -/
  items : List Ast
  /-- The branches before it in its group, the last one first. -/
  branches : List Ast
  /-- Are blanks skipped? -/
  spaced : Bool
  /-- The names of groups seen so far. -/
  names : List (List Char)

namespace Progress

def start : Progress := ⟨[], [], [], false, []⟩

def add (p : Progress) (item : Ast) : Progress := { p with items := item :: p.items }

def content (p : Progress) : Ast := Ast.ofBranches (Ast.ofItems p.items.reverse) p.branches.reverse

def repeated (p : Progress) (least : Nat) (greatest : Option Nat) : Except Error Progress :=
  match p.items with
  | [] | .flags _ :: _ => .error .missingOperand
  | item :: items => .ok { p with items := .repetition item least greatest :: items }

def enter (p : Progress) (change : FlagChange) (captures : Bool) : Progress :=
  { p with
    groups := ⟨change, captures, p.items, p.branches, p.spaced⟩ :: p.groups
    items := []
    branches := []
    spaced := (change.state? .spaced).getD p.spaced }

def begin (p : Progress) : GroupStart → Except Error Progress
  | .flags change => .ok { p.add (.flags change) with spaced := (change.state? .spaced).getD p.spaced }
  | .plain change => .ok (p.enter change false)
  | .capture none => .ok (p.enter [] true)
  | .capture (some name) =>
    if p.names.contains name then .error .badGroupName
    else .ok { p.enter [] true with names := name :: p.names }

def leave (p : Progress) : Except Error Progress :=
  match p.groups with
  | [] => .error .unopenedGroup
  | g :: groups =>
    .ok { p with
      groups
      items := .group g.change g.captures p.content :: g.items
      branches := g.branches
      spaced := g.spaced }

def branch (p : Progress) : Progress :=
  { p with items := [], branches := Ast.ofItems p.items.reverse :: p.branches }

/-- Reads an item, a sign or a parenthesis that begins with `c`. -/
def step (p : Progress) (c : Char) (cs : List Char) : Except Error (Progress × List Char) :=
  match c with
  | '(' => do
    let (start, rest) ← groupStart p.spaced cs
    return (← p.begin start, rest)
  | ')' => do return (← p.leave, cs)
  | '|' => .ok (p.branch, cs)
  | '[' => do
    let (item, rest) ← bracketed p.spaced cs
    return (p.add item, rest)
  | '?' => do return (← p.repeated 0 (some 1), dropLazy cs)
  | '*' => do return (← p.repeated 0 none, dropLazy cs)
  | '+' => do return (← p.repeated 1 none, dropLazy cs)
  | '{' => do
    let ((least, greatest), rest) ← counts p.spaced cs
    return (← p.repeated least greatest, rest)
  | '\\' => do
    let (item, rest) ← escape p.spaced cs
    return (p.add item, rest)
  | '.' => .ok (p.add .dot, cs)
  | '^' => .ok (p.add (.assertion .lineStart), cs)
  | '$' => .ok (p.add (.assertion .lineEnd), cs)
  | c => .ok (p.add (.literal c false), cs)

/-- The tree of what has been read, if all groups are closed. -/
def finish (p : Progress) : Except Error Ast :=
  match p.groups with
  | [] => .ok p.content
  | _ :: _ => .error .unclosedGroup

theorem length_step_le {p q : Progress} {c : Char} {cs rest : List Char} (h : p.step c cs = .ok (q, rest)) :
    rest.length ≤ cs.length := by
  have hl := length_dropLazy_le cs
  unfold step at h
  split at h
  · obtain ⟨⟨g, r⟩, hg, h⟩ := bind_eq_ok_iff.1 h
    obtain ⟨q', _, h⟩ := bind_eq_ok_iff.1 h
    have := groupStart_shrinks _ hg
    grind [pure_eq_ok_iff]
  · obtain ⟨q', _, h⟩ := bind_eq_ok_iff.1 h
    grind [pure_eq_ok_iff]
  · grind
  · obtain ⟨⟨a, r⟩, ha, h⟩ := bind_eq_ok_iff.1 h
    have := bracketed_shrinks _ ha
    grind [pure_eq_ok_iff]
  · obtain ⟨q', _, h⟩ := bind_eq_ok_iff.1 h
    grind [pure_eq_ok_iff]
  · obtain ⟨q', _, h⟩ := bind_eq_ok_iff.1 h
    grind [pure_eq_ok_iff]
  · obtain ⟨q', _, h⟩ := bind_eq_ok_iff.1 h
    grind [pure_eq_ok_iff]
  · obtain ⟨⟨⟨l, g⟩, r⟩, hc, h⟩ := bind_eq_ok_iff.1 h
    obtain ⟨q', _, h⟩ := bind_eq_ok_iff.1 h
    have := counts_shrinks _ hc
    grind [pure_eq_ok_iff]
  · obtain ⟨⟨a, r⟩, ha, h⟩ := bind_eq_ok_iff.1 h
    have := escape_shrinks _ ha
    grind [pure_eq_ok_iff]
  all_goals grind

def run (p : Progress) (cs : List Char) : Except Error Ast :=
  match _hs : skipBlanks p.spaced cs with
  | [] => p.finish
  | c :: rest =>
    match _hp : p.step c rest with
    | .error e => .error e
    | .ok (q, rest) => run q rest
termination_by cs.length
decreasing_by
  have := length_skipBlanks_le p.spaced cs
  rw [_hs] at this
  grind [→ length_step_le]

end Progress

/-- Reads a pattern, which may not be nested too deeply. -/
def parse (text : List Char) : Except Error Ast := do
  let ast ← Progress.start.run text
  if ast.nesting .none ≤ nestingLimit then return ast else .error .tooDeep

end BuilderAudit.Pattern
