/-!
# Texts

Characters, lines and words of a text, and what readers of a text have in common. White space is the Unicode property
White_Space: twenty-five characters, among them the no-break spaces and the line separators, but no zero-width
character. A line ends with a line feed or with a carriage return and a line feed; a carriage return anywhere else is
part of its line. The last line need not end, but then it is not empty.

* `isBlank` : white space;
* `hexValue?` : the value of a hexadecimal digit;
* `Text.lines` : the lines of a text without their ends;
* `Text.trim` : a text without the white space around it;
* `Text.occursIn` : is one text a part of another?
* `Reader.Shrinks` : a reader returns no more text than it was given; loops over readers end for that reason.
-/

namespace BuilderAudit

/-! ## Characters -/

def blankRanges : List (Nat × Nat) :=
  [(0x09, 0x0D), (0x20, 0x20), (0x85, 0x85), (0xA0, 0xA0), (0x1680, 0x1680), (0x2000, 0x200A), (0x2028, 0x2029),
    (0x202F, 0x202F), (0x205F, 0x205F), (0x3000, 0x3000)]

def isBlank (c : Char) : Bool := blankRanges.any fun (first, last) => first ≤ c.toNat && c.toNat ≤ last

def hexValue? (c : Char) : Option Nat :=
  if '0' ≤ c && c ≤ '9' then some (c.toNat - '0'.toNat)
  else if 'a' ≤ c && c ≤ 'f' then some (c.toNat - 'a'.toNat + 10)
  else if 'A' ≤ c && c ≤ 'F' then some (c.toNat - 'A'.toNat + 10)
  else none

/-! ## Lines and words -/

namespace Text

/-- A line given backwards, without the carriage return in front of its line feed. -/
def dropReturn : List Char → List Char
  | '\r' :: rest => rest
  | cs => cs

/-- The lines of a text that goes on a line of which `begun` has been read, in reverse. -/
def linesFrom (begun : List Char) : List Char → List (List Char)
  | [] => if begun.isEmpty then [] else [begun.reverse]
  | c :: cs => if c = '\n' then (dropReturn begun).reverse :: linesFrom [] cs else linesFrom (c :: begun) cs

def lines (cs : List Char) : List (List Char) := linesFrom [] cs

def trimStart (cs : List Char) : List Char := cs.dropWhile isBlank

def trimEnd (cs : List Char) : List Char := (cs.reverse.dropWhile isBlank).reverse

def trim (cs : List Char) : List Char := trimEnd (trimStart cs)

def occursIn (part : List Char) : List Char → Bool
  | [] => part.isEmpty
  | c :: cs => part.isPrefixOf (c :: cs) || occursIn part cs

/-- What is behind `start`, if the text starts with it. -/
def stripStart? (start : List Char) (cs : List Char) : Option (List Char) :=
  if start.isPrefixOf cs then some (cs.drop start.length) else none

end Text

/-! ## Readers -/

/-- A reader of values of type `α` whose failures have causes of type `ε`. -/
abbrev Reader (ε α : Type) := List Char → Except ε (α × List Char)

/-- The reader returns no more text than it was given. -/
def Reader.Shrinks {ε α : Type} (p : Reader ε α) : Prop :=
  ∀ {cs : List Char} {a : α} {rest : List Char}, p cs = .ok (a, rest) → rest.length ≤ cs.length

/-- A sequence of two steps succeeds when both do. -/
theorem bind_eq_ok_iff {ε α β : Type} {x : Except ε α} {f : α → Except ε β} {b : β} :
    (x >>= f) = .ok b ↔ ∃ a, x = .ok a ∧ f a = .ok b := by
  cases x <;> simp [bind, Except.bind]

/-- A step that only changes its result succeeds when it does. -/
theorem map_eq_ok_iff {ε α β : Type} {x : Except ε α} {f : α → β} {b : β} :
    x.map f = .ok b ↔ ∃ a, x = .ok a ∧ f a = b := by
  cases x <;> simp [Except.map]

@[simp] theorem pure_eq_ok_iff {ε α : Type} {a b : α} : (pure a : Except ε α) = .ok b ↔ a = b := by
  simp [pure, Except.pure]

end BuilderAudit
