import BuilderAudit.Unicode.CodeSet
import BuilderAudit.Unicode.CaseFoldingTable

/-!
# Case folding

Two characters are equal up to case when simple case folding maps them to the same character. Folding a set adds all
that is equal up to case to a member.

* `CaseFolding.groups` : the groups of two or more characters that are equal up to case;
* `CodeSet.foldCase` : closes a set under Unicode case folding;
* `CodeSet.foldAsciiCase` : closes a set under the case of the ASCII letters alone.
-/

namespace BuilderAudit

namespace CaseFolding

/-- Reads `size` gaps as the members of one group after `last`, and returns the numbers that follow. -/
def members (last : Nat) : Nat → List Nat → List Nat × List Nat
  | 0, rest => ([], rest)
  | _ + 1, [] => ([], [])
  | size + 1, gap :: rest =>
    let (more, rest) := members (last + gap) size rest
    ((last + gap) :: more, rest)

/-- Reads at most `count` groups, `least` being the least member of the group before. -/
def groupsFrom (least : Nat) : Nat → List Nat → List (List Nat)
  | count + 1, size :: gap :: rest =>
    let (others, rest) := members (least + gap) (size + 1) rest
    ((least + gap) :: others) :: groupsFrom (least + gap) count rest
  | _, _ => []

def groups : List (List Nat) :=
  let numbers := Packed.numbers caseFoldingTable
  groupsFrom 0 numbers.length numbers

end CaseFolding

namespace CodeSet

/-- The set with everything that is equal to a member up to case. -/
def foldCase (s : CodeSet) : CodeSet :=
  let touched := CaseFolding.groups.filter fun group => group.any s.contains
  union s (ofList touched.flatten)

/-- The part of `s` between `first` and `last`, moved up by `up` and down by `down`. -/
def shifted (s : CodeSet) (first last up down : Nat) : CodeSet :=
  ⟨(s.ranges.flatMap fun r => r.inter ⟨first, last⟩).map fun r => ⟨r.first + up - down, r.last + up - down⟩⟩

def foldAsciiCase (s : CodeSet) : CodeSet :=
  unionAll [s, s.shifted 0x41 0x5A 0x20 0, s.shifted 0x61 0x7A 0 0x20]

end CodeSet

end BuilderAudit
