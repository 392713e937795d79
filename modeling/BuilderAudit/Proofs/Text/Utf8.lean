import BuilderAudit.Path
import Mathlib

/-!
# UTF-8 there and back

Decoding undoes encoding and the other way round: some bytes are the encoding of a text exactly if they decode to it. So
a path is valid UTF-8 exactly if it is the path of a text.

* `Utf8.next_eq_some_iff` : one character;
* `Utf8.decode?_eq_some_iff` : whole texts;
* `Path.text?_eq_some_iff` : paths;
* `Path.IsText` : paths that are valid UTF-8.
-/

namespace BuilderAudit

namespace Utf8

/-! ## Bytes as numbers -/

theorem lead?_eq (b : UInt8) :
    lead? b =
      if b.toNat < 0x80 then some (0, b.toNat)
      else if 0xC2 ≤ b.toNat ∧ b.toNat ≤ 0xDF then some (1, b.toNat - 0xC0)
      else if 0xE0 ≤ b.toNat ∧ b.toNat ≤ 0xEF then some (2, b.toNat - 0xE0)
      else if 0xF0 ≤ b.toNat ∧ b.toNat ≤ 0xF4 then some (3, b.toNat - 0xF0)
      else none := by
  unfold lead?
  simp only [UInt8.lt_iff_toNat_lt, UInt8.le_iff_toNat_le, Bool.and_eq_true, decide_eq_true_eq]
  rfl

theorem isSecond_iff (b c : UInt8) :
    isSecond b c = true ↔
      (0x80 ≤ c.toNat ∧ c.toNat ≤ 0xBF) ∧ (b.toNat = 0xE0 → 0xA0 ≤ c.toNat) ∧ (b.toNat = 0xF0 → 0x90 ≤ c.toNat) ∧
        (b.toNat = 0xED → c.toNat ≤ 0x9F) ∧ (b.toNat = 0xF4 → c.toNat ≤ 0x8F) := by
  have hE0 : (b = 0xE0) = (b.toNat = 0xE0) := propext (UInt8.toNat_inj (b := 0xE0)).symm
  have hF0 : (b = 0xF0) = (b.toNat = 0xF0) := propext (UInt8.toNat_inj (b := 0xF0)).symm
  have hED : (b = 0xED) = (b.toNat = 0xED) := propext (UInt8.toNat_inj (b := 0xED)).symm
  have hF4 : (b = 0xF4) = (b.toNat = 0xF4) := propext (UInt8.toNat_inj (b := 0xF4)).symm
  unfold isSecond
  simp only [hE0, hF0, hED, hF4, Bool.and_eq_true, decide_eq_true_eq, UInt8.le_iff_toNat_le]
  split_ifs <;> simp only [UInt8.reduceToNat] <;> omega

theorem tail_succ (value count : Nat) (b : UInt8) (bytes : List UInt8) :
    tail value (count + 1) (b :: bytes) =
      if 0x80 ≤ b.toNat ∧ b.toNat ≤ 0xBF then tail (value * 64 + (b.toNat - 0x80)) count bytes
      else (none, b :: bytes) := by
  rw [tail]
  simp only [UInt8.le_iff_toNat_le, Bool.and_eq_true, decide_eq_true_eq]
  rfl

theorem tail_zero (value : Nat) (bytes : List UInt8) : tail value 0 bytes = (some (Char.ofNat value), bytes) := rfl

/-! ## One character -/

/-- The bytes of the character with a given number: one byte, or a first byte with up to three more. -/
inductive Form : List UInt8 → Nat → Prop
  | one {a : UInt8} (ha : a.toNat < 0x80) : Form [a] a.toNat
  | two {a b : UInt8} (ha : 0xC2 ≤ a.toNat ∧ a.toNat ≤ 0xDF) (hb : isSecond a b = true) :
      Form [a, b] ((a.toNat - 0xC0) * 64 + (b.toNat - 0x80))
  | three {a b c : UInt8} (ha : 0xE0 ≤ a.toNat ∧ a.toNat ≤ 0xEF) (hb : isSecond a b = true)
      (hc : 0x80 ≤ c.toNat ∧ c.toNat ≤ 0xBF) :
      Form [a, b, c] (((a.toNat - 0xE0) * 64 + (b.toNat - 0x80)) * 64 + (c.toNat - 0x80))
  | four {a b c d : UInt8} (ha : 0xF0 ≤ a.toNat ∧ a.toNat ≤ 0xF4) (hb : isSecond a b = true)
      (hc : 0x80 ≤ c.toNat ∧ c.toNat ≤ 0xBF) (hd : 0x80 ≤ d.toNat ∧ d.toNat ≤ 0xBF) :
      Form [a, b, c, d]
        ((((a.toNat - 0xF0) * 64 + (b.toNat - 0x80)) * 64 + (c.toNat - 0x80)) * 64 + (d.toNat - 0x80))

theorem next_of_form {b : UInt8} {front : List UInt8} {n : Nat} (h : Form (b :: front) n) (rest : List UInt8) :
    next b (front ++ rest) = (some (Char.ofNat n), rest) := by
  cases h with
  | one ha => simp [next, lead?_eq, ha]
  | two ha hb =>
      have hlead : lead? b = some (1, b.toNat - 0xC0) := by
        rw [lead?_eq, if_neg (by omega), if_pos ha]
      simp only [next, hlead, hb, if_true, List.cons_append, List.nil_append, tail_zero]
  | three ha hb hc =>
      have hlead : lead? b = some (2, b.toNat - 0xE0) := by
        rw [lead?_eq, if_neg (by omega), if_neg (by omega), if_pos ha]
      simp only [next, hlead, hb, if_true, List.cons_append, List.nil_append]
      rw [tail_succ, if_pos hc, tail_zero]
  | four ha hb hc hd =>
      have hlead : lead? b = some (3, b.toNat - 0xF0) := by
        rw [lead?_eq, if_neg (by omega), if_neg (by omega), if_neg (by omega), if_pos ha]
      simp only [next, hlead, hb, if_true, List.cons_append, List.nil_append]
      rw [tail_succ, if_pos hc, tail_succ, if_pos hd, tail_zero]

/-- A tail that ends well consists of as many bytes as were asked for. -/
theorem of_tail_succ {value count : Nat} {bytes rest : List UInt8} {c : Char}
    (h : tail value (count + 1) bytes = (some c, rest)) :
    ∃ b more, bytes = b :: more ∧ (0x80 ≤ b.toNat ∧ b.toNat ≤ 0xBF) ∧
      tail (value * 64 + (b.toNat - 0x80)) count more = (some c, rest) := by
  cases bytes with
  | nil => simp [tail] at h
  | cons b more =>
      rw [tail_succ] at h
      by_cases hb : 0x80 ≤ b.toNat ∧ b.toNat ≤ 0xBF
      · rw [if_pos hb] at h
        exact ⟨b, more, rfl, hb, h⟩
      · rw [if_neg hb] at h
        cases h

theorem of_tail_zero {value : Nat} {bytes rest : List UInt8} {c : Char} (h : tail value 0 bytes = (some c, rest)) :
    bytes = rest ∧ c = Char.ofNat value := by
  rw [tail_zero, Prod.mk.injEq, Option.some.injEq] at h
  exact ⟨h.2, h.1.symm⟩

/-- The second byte of a character that is more than one byte long. -/
theorem of_next_succ {b : UInt8} {bytes rest : List UInt8} {c : Char} {count value : Nat}
    (hlead : lead? b = some (count + 1, value)) (h : next b bytes = (some c, rest)) :
    ∃ second more, bytes = second :: more ∧ isSecond b second = true ∧
      tail (value * 64 + (second.toNat - 0x80)) count more = (some c, rest) := by
  unfold next at h
  rw [hlead] at h
  cases bytes with
  | nil => cases h
  | cons second more =>
      by_cases hsecond : isSecond b second = true
      · simp only [hsecond, if_true] at h
        exact ⟨second, more, rfl, hsecond, h⟩
      · simp [hsecond] at h

theorem form_of_next {b : UInt8} {bytes rest : List UInt8} {c : Char} (h : next b bytes = (some c, rest)) :
    ∃ front n, Form (b :: front) n ∧ bytes = front ++ rest ∧ c = Char.ofNat n := by
  have hlead := lead?_eq b
  split_ifs at hlead with h1 h2 h3 h4
  · unfold next at h
    rw [hlead] at h
    obtain ⟨rfl, hc⟩ := of_tail_zero h
    exact ⟨[], b.toNat, .one h1, rfl, hc⟩
  · obtain ⟨second, bytes, rfl, hsecond, h⟩ := of_next_succ hlead h
    obtain ⟨rfl, hc⟩ := of_tail_zero h
    exact ⟨[second], _, .two h2 hsecond, rfl, hc⟩
  · obtain ⟨second, bytes, rfl, hsecond, h⟩ := of_next_succ hlead h
    obtain ⟨third, bytes, rfl, hthird, h⟩ := of_tail_succ h
    obtain ⟨rfl, hc⟩ := of_tail_zero h
    exact ⟨[second, third], _, .three h3 hsecond hthird, rfl, hc⟩
  · obtain ⟨second, bytes, rfl, hsecond, h⟩ := of_next_succ hlead h
    obtain ⟨third, bytes, rfl, hthird, h⟩ := of_tail_succ h
    obtain ⟨fourth, bytes, rfl, hfourth, h⟩ := of_tail_succ h
    obtain ⟨rfl, hc⟩ := of_tail_zero h
    exact ⟨[second, third, fourth], _, .four h4 hsecond hthird hfourth, rfl, hc⟩
  · unfold next at h
    rw [hlead] at h
    cases h

/-- The number of a character is no surrogate. -/
theorem toNat_bounds (c : Char) : c.toNat < 0xD800 ∨ 0xE000 ≤ c.toNat ∧ c.toNat < 0x110000 := by
  have h := c.valid
  simp only [UInt32.isValidChar, Nat.isValidChar] at h
  have hval : c.toNat = c.val.toNat := rfl
  omega

theorem form_encodeChar (c : Char) : Form (String.utf8EncodeChar c) c.toNat := by
  have hbounds := toNat_bounds c
  have hsize : UInt8.size = 256 := rfl
  unfold String.utf8EncodeChar
  rw [show c.val.toNat = c.toNat from rfl]
  generalize c.toNat = n at hbounds
  simp only
  split_ifs with h1 h2 h3
  · have ha : (UInt8.ofNat n).toNat = n := UInt8.toNat_ofNat_of_lt' (by omega)
    have hform := Form.one (a := UInt8.ofNat n) (by omega)
    rwa [ha] at hform
  · have ha : (UInt8.ofNat (n / 64 % 32 + 192)).toNat = n / 64 % 32 + 192 := UInt8.toNat_ofNat_of_lt' (by omega)
    have hb : (UInt8.ofNat (n % 64 + 128)).toNat = n % 64 + 128 := UInt8.toNat_ofNat_of_lt' (by omega)
    have hform := Form.two (a := UInt8.ofNat (n / 64 % 32 + 192)) (b := UInt8.ofNat (n % 64 + 128)) (by omega)
      (by rw [isSecond_iff]; omega)
    rwa [ha, hb, show (n / 64 % 32 + 192 - 0xC0) * 64 + (n % 64 + 128 - 0x80) = n by omega] at hform
  · have ha : (UInt8.ofNat (n / 4096 % 16 + 224)).toNat = n / 4096 % 16 + 224 := UInt8.toNat_ofNat_of_lt' (by omega)
    have hb : (UInt8.ofNat (n / 64 % 64 + 128)).toNat = n / 64 % 64 + 128 := UInt8.toNat_ofNat_of_lt' (by omega)
    have hc : (UInt8.ofNat (n % 64 + 128)).toNat = n % 64 + 128 := UInt8.toNat_ofNat_of_lt' (by omega)
    have hform := Form.three (a := UInt8.ofNat (n / 4096 % 16 + 224)) (b := UInt8.ofNat (n / 64 % 64 + 128))
      (c := UInt8.ofNat (n % 64 + 128)) (by omega) (by rw [isSecond_iff]; omega) (by omega)
    rwa [ha, hb, hc, show ((n / 4096 % 16 + 224 - 0xE0) * 64 + (n / 64 % 64 + 128 - 0x80)) * 64 +
      (n % 64 + 128 - 0x80) = n by omega] at hform
  · have ha : (UInt8.ofNat (n / 262144 % 8 + 240)).toNat = n / 262144 % 8 + 240 := UInt8.toNat_ofNat_of_lt' (by omega)
    have hb : (UInt8.ofNat (n / 4096 % 64 + 128)).toNat = n / 4096 % 64 + 128 := UInt8.toNat_ofNat_of_lt' (by omega)
    have hc : (UInt8.ofNat (n / 64 % 64 + 128)).toNat = n / 64 % 64 + 128 := UInt8.toNat_ofNat_of_lt' (by omega)
    have hd : (UInt8.ofNat (n % 64 + 128)).toNat = n % 64 + 128 := UInt8.toNat_ofNat_of_lt' (by omega)
    have hform := Form.four (a := UInt8.ofNat (n / 262144 % 8 + 240)) (b := UInt8.ofNat (n / 4096 % 64 + 128))
      (c := UInt8.ofNat (n / 64 % 64 + 128)) (d := UInt8.ofNat (n % 64 + 128)) (by omega)
      (by rw [isSecond_iff]; omega) (by omega) (by omega)
    rwa [ha, hb, hc, hd, show (((n / 262144 % 8 + 240 - 0xF0) * 64 + (n / 4096 % 64 + 128 - 0x80)) * 64 +
      (n / 64 % 64 + 128 - 0x80)) * 64 + (n % 64 + 128 - 0x80) = n by omega] at hform

/-- No form encodes a surrogate or a number that is too large. -/
theorem isValidChar_of_form {front : List UInt8} {n : Nat} (h : Form front n) : n.isValidChar := by
  unfold Nat.isValidChar
  cases h with
  | one ha => omega
  | two ha hb =>
      rw [isSecond_iff] at hb
      omega
  | three ha hb hc =>
      rw [isSecond_iff] at hb
      omega
  | four ha hb hc hd =>
      rw [isSecond_iff] at hb
      omega

/-- A character has one form only. -/
theorem encodeChar_of_form {front : List UInt8} {n : Nat} (h : Form front n) :
    String.utf8EncodeChar (Char.ofNat n) = front := by
  have hvalue : (Char.ofNat n).val.toNat = n := by
    rw [show (Char.ofNat n).val.toNat = (Char.ofNat n).toNat from rfl, Char.toNat_ofNat, if_pos (isValidChar_of_form h)]
  unfold String.utf8EncodeChar
  simp only [hvalue]
  clear hvalue
  have hofNat : ∀ {m : Nat} {b : UInt8}, m = b.toNat → UInt8.ofNat m = b := by
    rintro m b rfl
    exact UInt8.ofNat_toNat
  cases h with
  | one ha => rw [if_pos (by omega), UInt8.ofNat_toNat]
  | two ha hb =>
      rw [isSecond_iff] at hb
      rw [if_neg (by omega), if_pos (by omega), List.cons.injEq, List.cons.injEq]
      exact ⟨hofNat (by omega), hofNat (by omega), rfl⟩
  | three ha hb hc =>
      rw [isSecond_iff] at hb
      rw [if_neg (by omega), if_neg (by omega),
        if_pos (by omega), List.cons.injEq, List.cons.injEq, List.cons.injEq]
      exact ⟨hofNat (by omega), hofNat (by omega),
        hofNat (by omega), rfl⟩
  | four ha hb hc hd =>
      rw [isSecond_iff] at hb
      rw [if_neg (by omega), if_neg (by omega),
        if_neg (by omega), List.cons.injEq, List.cons.injEq, List.cons.injEq, List.cons.injEq]
      exact ⟨hofNat (by omega), hofNat (by omega),
        hofNat (by omega), hofNat (by omega), rfl⟩

/-- A character is taken off the front of some bytes exactly if they start with its encoding. -/
theorem next_eq_some_iff {b : UInt8} {bytes rest : List UInt8} {c : Char} :
    next b bytes = (some c, rest) ↔ b :: bytes = String.utf8EncodeChar c ++ rest := by
  constructor
  · intro h
    obtain ⟨front, n, hform, rfl, rfl⟩ := form_of_next h
    rw [encodeChar_of_form hform, List.cons_append]
  · intro h
    have hform := form_encodeChar c
    cases hfront : String.utf8EncodeChar c with
    | nil =>
        rw [hfront] at hform
        cases hform
    | cons a front =>
        rw [hfront] at hform
        rw [hfront, List.cons_append, List.cons.injEq] at h
        obtain ⟨rfl, rfl⟩ := h
        rw [next_of_form hform, Char.ofNat_toNat]

/-! ## Texts -/

theorem partsFrom_eq (done : List (Option Char)) (bytes : List UInt8) :
    partsFrom done bytes = done.reverse ++ parts bytes := by
  unfold parts
  induction hlength : bytes.length using Nat.strongRecOn generalizing done bytes with
  | ind n ih =>
      cases bytes with
      | nil => simp [partsFrom]
      | cons b bytes =>
          have hle := length_next_le b bytes
          rw [List.length_cons] at hlength
          rw [partsFrom, partsFrom, ih _ (by omega) _ _ rfl, ih _ (by omega) [(next b bytes).1] _ rfl]
          simp

theorem parts_cons (b : UInt8) (bytes : List UInt8) :
    parts (b :: bytes) = (next b bytes).1 :: parts (next b bytes).2 := by
  rw [parts, partsFrom, partsFrom_eq]
  rfl

theorem parts_encode (cs : List Char) : parts (encode cs) = cs.map some := by
  induction cs with
  | nil => simp [encode, parts, partsFrom]
  | cons c cs ih =>
      have hcons : encode (c :: cs) = String.utf8EncodeChar c ++ encode cs := rfl
      cases hbytes : encode (c :: cs) with
      | nil =>
          rw [hcons, List.append_eq_nil_iff] at hbytes
          exact absurd hbytes.1 (by simp [String.utf8EncodeChar_ne_nil])
      | cons b bytes =>
          have hnext : next b bytes = (some c, encode cs) := next_eq_some_iff.mpr (hbytes.symm.trans hcons)
          rw [parts_cons, hnext, List.map_cons, ← ih]

theorem encode_of_parts {bytes : List UInt8} {cs : List Char} (h : parts bytes = cs.map some) : encode cs = bytes := by
  induction cs generalizing bytes with
  | nil =>
      cases bytes with
      | nil => rfl
      | cons b bytes => simp [parts_cons] at h
  | cons c cs ih =>
      cases bytes with
      | nil => simp [parts, partsFrom] at h
      | cons b bytes =>
          rw [parts_cons, List.map_cons, List.cons.injEq] at h
          have hnext : next b bytes = (some c, (next b bytes).2) := Prod.ext h.1 rfl
          rw [next_eq_some_iff.mp hnext, ← ih h.2]
          rfl

theorem mapM_id_eq_some_iff {parts : List (Option Char)} {cs : List Char} :
    parts.mapM id = some cs ↔ parts = cs.map some := by
  induction parts generalizing cs with
  | nil => cases cs <;> simp
  | cons part parts ih =>
      rw [List.mapM_cons]
      cases part with
      | none => cases cs <;> simp
      | some c =>
          cases cs with
          | nil => simp [Option.bind_eq_some_iff]
          | cons d cs =>
              simp only [id, Option.bind_eq_bind, Option.bind_some, Option.pure_def, Option.bind_eq_some_iff, ih,
                Option.some.injEq, List.cons.injEq, List.map_cons]
              constructor
              · rintro ⟨_, hparts, rfl, rfl⟩
                exact ⟨rfl, hparts⟩
              · rintro ⟨rfl, hparts⟩
                exact ⟨cs, hparts, rfl, rfl⟩

/-- **Some bytes decode to a text exactly if they are its encoding.** -/
theorem decode?_eq_some_iff {bytes : List UInt8} {cs : List Char} : decode? bytes = some cs ↔ encode cs = bytes := by
  rw [decode?, mapM_id_eq_some_iff]
  constructor
  · exact encode_of_parts
  · rintro rfl
    exact parts_encode cs

end Utf8

namespace Path

/-- A path is valid UTF-8 exactly if it is the path of a text. -/
theorem text?_eq_some_iff {p : Path} {s : String} : p.text? = some s ↔ Path.ofString s = p := by
  unfold text? ofString
  rw [Option.map_eq_some_iff]
  constructor
  · rintro ⟨cs, hcs, rfl⟩
    rw [String.toList_ofList, Utf8.decode?_eq_some_iff.mp hcs]
  · rintro rfl
    exact ⟨s.toList, Utf8.decode?_eq_some_iff.mpr rfl, String.ofList_toList⟩

/-- The path is valid UTF-8: it is the path of a text. -/
def IsText (p : Path) : Prop := ∃ s, Path.ofString s = p

theorem exists_text?_iff {p : Path} : (∃ s, p.text? = some s) ↔ p.IsText :=
  exists_congr fun _ => text?_eq_some_iff

end Path

end BuilderAudit
