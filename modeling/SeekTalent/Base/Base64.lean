import Mathlib.Data.List.Basic
import Mathlib.Data.List.TakeWhile

/-!
# Base 64 for URLs

Bytes are read three at a time and written as four digits of six bits; one or two bytes at the end
become two or three digits, without padding. A decoder skips what is no digit, and takes the digits
of both alphabets (`decode_encode`).
-/

namespace Base64

def sextets : List UInt8 → List Nat
  | [] => []
  | [a] => [a.toNat / 4, a.toNat % 4 * 16]
  | [a, b] => [a.toNat / 4, a.toNat % 4 * 16 + b.toNat / 16, b.toNat % 16 * 4]
  | a :: b :: c :: rest =>
    a.toNat / 4 :: (a.toNat % 4 * 16 + b.toNat / 16) :: (b.toNat % 16 * 4 + c.toNat / 64) ::
      c.toNat % 64 :: sextets rest

/-- The bytes of groups of six bits; what is left over at the end is dropped. -/
def octets : List Nat → List UInt8
  | p :: q :: r :: s :: rest =>
    .ofNat (p * 4 + q / 16) :: .ofNat (q % 16 * 16 + r / 4) :: .ofNat (r % 4 * 64 + s) ::
      octets rest
  | [p, q, r] => [.ofNat (p * 4 + q / 16), .ofNat (q % 16 * 16 + r / 4)]
  | [p, q] => [.ofNat (p * 4 + q / 16)]
  | _ => []

def alphabet : List Char :=
  "ABCDEFGHIJKLMNOPQRSTUVWXYZabcdefghijklmnopqrstuvwxyz0123456789-_".toList

def digit (n : Nat) : Char := alphabet.getD n 'A'

/-- The value of a digit of either alphabet. -/
def value (c : Char) : Option Nat :=
  if c = '+' then some 62 else if c = '/' then some 63 else alphabet.idxOf? c

/-- `base64.urlsafe_b64encode` without the padding, and `digest("base64url")` -/
def encode (bytes : List UInt8) : List Char := (sextets bytes).map digit

/-- `Buffer.from(text, "base64url")` -/
def decode (text : List Char) : List UInt8 :=
  octets ((text.takeWhile (· ≠ '=')).filterMap value)

/-- `binascii.a2b_base64`: `digits` are the groups read so far, last one first, and `pads` the padding
    since the last one. What is left of a group needs its padding; what is no digit is skipped. -/
def paddedFrom (digits : List Nat) (pads : Nat) : List Char → Option (List UInt8)
  | [] => if digits.length % 4 = 0 then some (octets digits.reverse) else none
  | c :: cs =>
    if c = '=' then
      if digits.length % 4 < 2 then paddedFrom digits pads cs
      else if 4 ≤ digits.length % 4 + (pads + 1) then some (octets digits.reverse)
      else paddedFrom digits (pads + 1) cs
    else
      match value c with
      | none => paddedFrom digits pads cs
      | some n => paddedFrom (n :: digits) 0 cs

/-- `base64.urlsafe_b64decode` of ASCII -/
def decodePadded (text : List Char) : Option (List UInt8) := paddedFrom [] 0 text

/-- `text + "=" * (-len(text) % 4)` -/
def pad (text : List Char) : List Char := text ++ List.replicate ((4 - text.length % 4) % 4) '='

/-! ## Round trip -/

theorem sextets_lt {bytes : List UInt8} : ∀ n ∈ sextets bytes, n < 64 := by
  induction bytes using sextets.induct with
  | case1 => simp [sextets]
  | case2 a =>
    have ha := a.toNat_lt
    simp [sextets]
    omega
  | case3 a b =>
    have ha := a.toNat_lt
    have hb := b.toNat_lt
    simp [sextets]
    omega
  | case4 a b c rest ih =>
    have ha := a.toNat_lt
    have hb := b.toNat_lt
    have hc := c.toNat_lt
    simp only [sextets, List.mem_cons, forall_eq_or_imp]
    exact ⟨by omega, by omega, by omega, by omega, ih⟩

theorem ofNat_eq {n : Nat} {a : UInt8} (h : n = a.toNat) : UInt8.ofNat n = a := by
  rw [h, UInt8.ofNat_toNat]

theorem octets_sextets (bytes : List UInt8) : octets (sextets bytes) = bytes := by
  induction bytes using sextets.induct with
  | case1 => rfl
  | case2 a =>
    have ha := a.toNat_lt
    simp only [sextets, octets]
    rw [ofNat_eq (a := a) (by omega)]
  | case3 a b =>
    have ha := a.toNat_lt
    have hb := b.toNat_lt
    simp only [sextets, octets]
    rw [ofNat_eq (a := a) (by omega), ofNat_eq (a := b) (by omega)]
  | case4 a b c rest ih =>
    have ha := a.toNat_lt
    have hb := b.toNat_lt
    have hc := c.toNat_lt
    simp only [sextets, octets]
    rw [ofNat_eq (a := a) (by omega), ofNat_eq (a := b) (by omega), ofNat_eq (a := c) (by omega), ih]

/-- A digit is read back, and it is a letter, a decimal digit, `-` or `_`. -/
theorem digit_spec {n : Nat} (h : n < 64) :
    value (digit n) = some n ∧ (digit n).toNat < 0x80 ∧
      ((digit n).isAlphanum = true ∨ digit n = '-' ∨ digit n = '_') := by
  have hall : ∀ n : Fin 64, value (digit n) = some n.val ∧ (digit n).toNat < 0x80 ∧
      ((digit n).isAlphanum = true ∨ digit n = '-' ∨ digit n = '_') := by
    decide +kernel
  exact hall ⟨n, h⟩

theorem encode_plain {bytes : List UInt8} : ∀ c ∈ encode bytes,
    c.toNat < 0x80 ∧ (c.isAlphanum = true ∨ c = '-' ∨ c = '_') := by
  intro c hc
  obtain ⟨n, hn, rfl⟩ := List.mem_map.mp hc
  exact (digit_spec (sextets_lt n hn)).2

theorem decode_encode (bytes : List UInt8) : decode (encode bytes) = bytes := by
  have hpad : ∀ c ∈ encode bytes, decide (c ≠ '=') = true := by
    intro c hc
    apply decide_eq_true
    rintro rfl
    exact absurd (encode_plain _ hc).2 (by decide)
  have hvalues : ∀ n ∈ sextets bytes, (value ∘ digit) n = some n :=
    fun n hn => (digit_spec (sextets_lt n hn)).1
  unfold decode
  rw [List.takeWhile_eq_self_iff.mpr hpad, encode, List.filterMap_map,
    List.filterMap_congr hvalues, List.filterMap_some, octets_sextets]

theorem encode_eq_nil_iff {bytes : List UInt8} : encode bytes = [] ↔ bytes = [] := by
  constructor
  · intro h
    rw [← decode_encode bytes, h]
    rfl
  · rintro rfl
    rfl

theorem length_sextets_mod (bytes : List UInt8) : (sextets bytes).length % 4 ≠ 1 := by
  induction bytes using sextets.induct with
  | case1 => decide
  | case2 a => simp [sextets]
  | case3 a b => simp [sextets]
  | case4 a b c rest ih =>
    simp only [sextets, List.length_cons]
    omega

theorem paddedFrom_digits {ns : List Nat} (h : ∀ n ∈ ns, n < 64) (digits : List Nat) (rest : List Char) :
    paddedFrom digits 0 (ns.map digit ++ rest) = paddedFrom (ns.reverse ++ digits) 0 rest := by
  induction ns generalizing digits with
  | nil => rfl
  | cons n ns ih =>
    obtain ⟨hn, hns⟩ := List.forall_mem_cons.mp h
    obtain ⟨hvalue, -, hplain⟩ := digit_spec hn
    have hpad : digit n ≠ '=' := by
      intro heq
      rw [heq] at hplain
      exact absurd hplain (by decide)
    rw [List.map_cons, List.cons_append, paddedFrom, if_neg hpad, hvalue]
    dsimp only
    rw [ih hns, List.reverse_cons, List.append_assoc, List.singleton_append]

/-- **What is written is read back, with its padding.** -/
theorem decodePadded_encode (bytes : List UInt8) : decodePadded (pad (encode bytes)) = some bytes := by
  have hmod := length_sextets_mod bytes
  have hlength : (encode bytes).length = (sextets bytes).length := List.length_map ..
  unfold decodePadded pad
  rw [hlength]
  unfold encode
  rw [paddedFrom_digits sextets_lt, List.append_nil]
  have hoctets : octets (sextets bytes).reverse.reverse = bytes := by
    rw [List.reverse_reverse, octets_sextets]
  have hreverse : (sextets bytes).reverse.length = (sextets bytes).length := List.length_reverse
  rcases (by omega : (sextets bytes).length % 4 = 0 ∨ (sextets bytes).length % 4 = 2 ∨
    (sextets bytes).length % 4 = 3) with h | h | h
  · rw [h]
    show paddedFrom _ 0 [] = _
    rw [paddedFrom, hreverse, h, if_pos rfl, hoctets]
  · rw [h]
    show paddedFrom _ 0 ['=', '='] = _
    simp [paddedFrom, h, octets_sextets]
  · rw [h]
    show paddedFrom _ 0 ['='] = _
    simp [paddedFrom, h, octets_sextets]

end Base64
