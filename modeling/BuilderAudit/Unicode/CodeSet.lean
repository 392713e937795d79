/-!
# Sets of code points

A set of code points is a list of closed intervals. The operations are correct for every list, whether or not its
intervals are sorted or disjoint, so membership laws need no side condition.

* `CodeSet.normalize` : the same set as sorted, disjoint intervals that do not touch;
* `CodeSet.union`, `CodeSet.inter`, `CodeSet.diff`, `CodeSet.symmDiff`, `CodeSet.compl` : the set operations, the
  last one relative to the scalar values `CodeSet.scalars`;
* `CodeSet.byteSequences` : a set in UTF-8, where an interval of code points is a union of sequences of byte ranges,
  each of which stands for all encodings that take one byte from each of its ranges;
* `Packed.set` : the set of a packed text;
* `NamedSet.find?` : a set looked up by one of its names.

The tables of character properties are kept as packed text, cut into lines. A number is written in base 32, least digit
first: the last digit is one of the first thirty-two characters of `A`–`Z`, `a`–`z`, `0`–`9`, `+`, `_`, every other
digit one of the last thirty-two. A set is the sequence, for each of its intervals in order, of the gap since the
interval before and of the interval's length less one.
-/

namespace BuilderAudit

/-- The code points from `first` to `last`, both included. -/
structure CodeRange where
  first : Nat
  last : Nat
  deriving DecidableEq, Repr

namespace CodeRange

def contains (r : CodeRange) (n : Nat) : Bool := decide (r.first ≤ n) && decide (n ≤ r.last)

/-- What is left of `r` without the code points of `t`. -/
def diff (r t : CodeRange) : List CodeRange :=
  if r.last < t.first || t.last < r.first || t.last < t.first then [r]
  else
    (if r.first < t.first then [⟨r.first, t.first - 1⟩] else []) ++
      (if t.last < r.last then [⟨t.last + 1, r.last⟩] else [])

def inter (r t : CodeRange) : List CodeRange :=
  let first := max r.first t.first
  let last := min r.last t.last
  if first ≤ last then [⟨first, last⟩] else []

end CodeRange

/-- A set of code points, as a union of intervals. -/
structure CodeSet where
  ranges : List CodeRange
  deriving DecidableEq, Repr

namespace CodeSet

def contains (s : CodeSet) (n : Nat) : Bool := s.ranges.any (·.contains n)

def containsChar (s : CodeSet) (c : Char) : Bool := s.contains c.toNat

def empty : CodeSet := ⟨[]⟩

def singleton (c : Char) : CodeSet := ⟨[⟨c.toNat, c.toNat⟩]⟩

/-- The set of the characters from `a` to `b`. -/
def interval (a b : Char) : CodeSet := ⟨[⟨a.toNat, b.toNat⟩]⟩

def ofList (codes : List Nat) : CodeSet := ⟨codes.map fun n => ⟨n, n⟩⟩

/-- Appends an interval, joined to the one before it when the two overlap or touch. -/
def joinNext (r : CodeRange) : List CodeRange → List CodeRange
  | [] => [r]
  | t :: rest =>
    if r.first ≤ t.last + 1 && t.first ≤ r.first then ⟨t.first, max t.last r.last⟩ :: rest
    else r :: t :: rest

/-- The same set as sorted intervals of which no two overlap or touch. -/
def normalize (s : CodeSet) : CodeSet :=
  let sorted := (s.ranges.filter fun r => r.first ≤ r.last).mergeSort fun a b => a.first ≤ b.first
  ⟨(sorted.foldl (fun done r => joinNext r done) []).reverse⟩

def union (s t : CodeSet) : CodeSet := normalize ⟨s.ranges ++ t.ranges⟩

def unionAll (sets : List CodeSet) : CodeSet := normalize ⟨sets.flatMap CodeSet.ranges⟩

def inter (s t : CodeSet) : CodeSet :=
  normalize ⟨s.ranges.flatMap fun r => t.ranges.flatMap fun u => r.inter u⟩

def diff (s t : CodeSet) : CodeSet :=
  normalize ⟨t.ranges.foldl (fun rest u => rest.flatMap fun r => r.diff u) s.ranges⟩

def symmDiff (s t : CodeSet) : CodeSet := union (diff s t) (diff t s)

/-- All Unicode scalar values: the code points without the surrogates. -/
def scalars : CodeSet := ⟨[⟨0, 0xD7FF⟩, ⟨0xE000, 0x10FFFF⟩]⟩

/-- The scalar values outside the set. -/
def compl (s : CodeSet) : CodeSet := diff scalars s

def isAscii (s : CodeSet) : Bool := s.ranges.all fun r => r.last < 128 || r.last < r.first

end CodeSet

/-! ## Code points as sequences of byte ranges -/

abbrev ByteRange := Nat × Nat

/-- The sequences for the numbers from `lo` to `hi`, which are written with `extra` continuation bytes behind a byte
whose upper bits are `mark`. -/
def byteSequences (mark : Nat) : (extra lo hi : Nat) → List (List ByteRange)
  | 0, lo, hi => [[(mark + lo, mark + hi)]]
  | extra + 1, lo, hi =>
    let unit := Nat.pow 64 (extra + 1)
    let full := List.replicate (extra + 1) (0x80, 0xBF)
    let (first, last) := (lo / unit, hi / unit)
    if first == last then
      (byteSequences 0x80 extra (lo % unit) (hi % unit)).map ((mark + first, mark + first) :: ·)
    else
      let head := if lo % unit == 0 then [] else
        (byteSequences 0x80 extra (lo % unit) (unit - 1)).map ((mark + first, mark + first) :: ·)
      let tail := if hi % unit == unit - 1 then [] else
        (byteSequences 0x80 extra 0 (hi % unit)).map ((mark + last, mark + last) :: ·)
      let from' := if lo % unit == 0 then first else first + 1
      let to' := if hi % unit == unit - 1 then last + 1 else last
      head ++ (if from' < to' then [(mark + from', mark + to' - 1) :: full] else []) ++ tail

/-- The lengths of encodings: least and greatest code point, number of continuation bytes, upper bits of the first byte.
The surrogates lie between the two intervals of three bytes. -/
def encodingLengths : List (Nat × Nat × Nat × Nat) :=
  [(0, 0x7F, 0, 0), (0x80, 0x7FF, 1, 0xC0), (0x800, 0xD7FF, 2, 0xE0), (0xE000, 0xFFFF, 2, 0xE0),
    (0x10000, 0x10FFFF, 3, 0xF0)]

def CodeSet.byteSequences (s : CodeSet) : List (List ByteRange) :=
  s.normalize.ranges.flatMap fun r => encodingLengths.flatMap fun (first, last, extra, mark) =>
    (r.inter ⟨first, last⟩).flatMap fun t => BuilderAudit.byteSequences mark extra t.first t.last

/-! ## Packed tables of code points -/

namespace Packed

/-- The place of a character among the sixty-four digits. -/
def digit (c : Char) : Nat :=
  if 'A' ≤ c && c ≤ 'Z' then c.toNat - 'A'.toNat
  else if 'a' ≤ c && c ≤ 'z' then c.toNat - 'a'.toNat + 26
  else if '0' ≤ c && c ≤ '9' then c.toNat - '0'.toNat + 52
  else if c == '+' then 62
  else 63

/-- Reads numbers; `value` is what the digits of the current one came to and `scale` the weight of the next digit. -/
def numbersFrom (value scale : Nat) : List Char → List Nat
  | [] => []
  | c :: rest =>
    let d := digit c
    if d < 32 then (value + d * scale) :: numbersFrom 0 1 rest
    else numbersFrom (value + (d - 32) * scale) (scale * 32) rest

def numbers (lines : List String) : List Nat := numbersFrom 0 1 (lines.flatMap String.toList)

/-- The intervals that gaps and lengths describe, `next` being the first code point after the interval before. -/
def rangesFrom (next : Nat) : List Nat → List CodeRange
  | gap :: length :: rest => ⟨next + gap, next + gap + length⟩ :: rangesFrom (next + gap + length + 1) rest
  | _ => []

def set (lines : List String) : CodeSet := ⟨rangesFrom 0 (numbers lines)⟩

end Packed

/-- A packed set with the names it goes by, all in lower case and without blanks, hyphens and underscores. -/
structure NamedSet where
  names : List String
  packed : List String

def NamedSet.find? (table : List NamedSet) (name : String) : Option CodeSet :=
  (table.find? fun row => row.names.contains name).map fun row => Packed.set row.packed

end BuilderAudit
