/-!
# UTF-8

Files and names hold bytes; texts hold characters. `next` takes one character off the front of some bytes, or the
longest beginning of a character that is broken off. No encoding is longer than it has to be, and none encodes a
surrogate.

* `encode` : the bytes of a text;
* `decode?` : the text of bytes that are valid UTF-8;
* `decodeLossy` : the text of any bytes, each invalid part read as U+FFFD.
-/

namespace BuilderAudit.Utf8

def encode (cs : List Char) : List UInt8 := cs.flatMap String.utf8EncodeChar

/-- The number of bytes that follow a first byte, and the bits of the character in the first byte. -/
def lead? (b : UInt8) : Option (Nat × Nat) :=
  if b < 0x80 then some (0, b.toNat)
  else if 0xC2 ≤ b && b ≤ 0xDF then some (1, b.toNat - 0xC0)
  else if 0xE0 ≤ b && b ≤ 0xEF then some (2, b.toNat - 0xE0)
  else if 0xF0 ≤ b && b ≤ 0xF4 then some (3, b.toNat - 0xF0)
  else none

/-- May `c` follow the first byte `b`? Some first bytes rule out long forms, surrogates or numbers too large. -/
def isSecond (b c : UInt8) : Bool :=
  (if b = 0xE0 then 0xA0 else if b = 0xF0 then 0x90 else 0x80) ≤ c &&
    c ≤ (if b = 0xED then 0x9F else if b = 0xF4 then 0x8F else 0xBF)

/-- Reads `count` more bytes of a character, `value` being what the bytes before came to. -/
def tail (value : Nat) : (count : Nat) → List UInt8 → Option Char × List UInt8
  | 0, bytes => (some (Char.ofNat value), bytes)
  | _ + 1, [] => (none, [])
  | count + 1, b :: bytes =>
    if 0x80 ≤ b && b ≤ 0xBF then tail (value * 64 + (b.toNat - 0x80)) count bytes else (none, b :: bytes)

/-- Takes a character off the front of `b :: bytes`, or the beginning of one that is broken off. -/
def next (b : UInt8) (bytes : List UInt8) : Option Char × List UInt8 :=
  match lead? b, bytes with
  | none, _ => (none, bytes)
  | some (0, value), _ => (some (Char.ofNat value), bytes)
  | some (_ + 1, _), [] => (none, [])
  | some (count + 1, value), c :: rest =>
    if isSecond b c then tail (value * 64 + (c.toNat - 0x80)) count rest else (none, c :: rest)

theorem length_tail_le (value count : Nat) (bytes : List UInt8) :
    (tail value count bytes).2.length ≤ bytes.length := by
  fun_induction tail value count bytes with
  | case1 => simp
  | case2 => simp
  | case3 value count b bytes h ih => simp only [List.length_cons]; omega
  | case4 => simp

theorem length_next_le (b : UInt8) (bytes : List UInt8) : (next b bytes).2.length ≤ bytes.length := by
  unfold next
  split <;> try simp
  split
  · have := length_tail_le
    grind
  · simp

/-- The characters of some bytes behind those in `done`, which are in reverse; `none` stands for an invalid part. -/
def partsFrom (done : List (Option Char)) : List UInt8 → List (Option Char)
  | [] => done.reverse
  | b :: bytes => partsFrom ((next b bytes).1 :: done) (next b bytes).2
termination_by bytes => bytes.length
decreasing_by
  have := length_next_le b bytes
  simp only [List.length_cons]
  omega

def parts (bytes : List UInt8) : List (Option Char) := partsFrom [] bytes

def decode? (bytes : List UInt8) : Option (List Char) := (parts bytes).mapM id

/-- The text of some bytes, each invalid part replaced by U+FFFD. -/
def decodeLossy (bytes : List UInt8) : List Char := (parts bytes).map fun c => c.getD '\uFFFD'

end BuilderAudit.Utf8
