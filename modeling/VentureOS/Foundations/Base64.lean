import Mathlib.Data.List.Basic

/-! # Base64

`buffer.toString('base64')`, and `Buffer.from(text, 'base64')` on texts with their padding at the end.

Three octets are four sextets, and a text is the characters of the sextets with a padding that says how many octets
were left. What is decoded is what was encoded (`decode_encode`). -/

namespace VentureOS.Base64

/-! ## Sextets -/

/-- The sextets of some octets. -/
def sextets : List UInt8 → List Nat
  | a :: b :: c :: rest =>
    let n := (a.toNat * 256 + b.toNat) * 256 + c.toNat
    n / 262144 :: n / 4096 % 64 :: n / 64 % 64 :: n % 64 :: sextets rest
  | [a, b] =>
    let n := a.toNat * 256 + b.toNat
    [n / 1024, n / 16 % 64, n % 16 * 4]
  | [a] => [a.toNat / 4, a.toNat % 4 * 16]
  | [] => []

/-- The octets of some sextets; what is left of the last octet is dropped. -/
def octets : List Nat → List UInt8
  | a :: b :: c :: d :: rest =>
    let n := ((a * 64 + b) * 64 + c) * 64 + d
    UInt8.ofNat (n / 65536) :: UInt8.ofNat (n / 256 % 256) :: UInt8.ofNat (n % 256) :: octets rest
  | [a, b, c] =>
    let n := (a * 64 + b) * 64 + c
    [UInt8.ofNat (n / 1024), UInt8.ofNat (n / 4 % 256)]
  | [a, b] => [UInt8.ofNat ((a * 64 + b) / 16)]
  | _ => []

theorem sextets_lt (bytes : List UInt8) : ∀ n ∈ sextets bytes, n < 64 := by
  fun_induction sextets bytes with
  | case1 a b c rest n ih =>
    have ha := a.toNat_lt
    have hb := b.toNat_lt
    have hc := c.toNat_lt
    simp only [List.forall_mem_cons]
    exact ⟨by omega, by omega, by omega, by omega, ih⟩
  | case2 a b n =>
    have ha := a.toNat_lt
    have hb := b.toNat_lt
    simp only [List.forall_mem_cons]
    exact ⟨by omega, by omega, by omega, by simp⟩
  | case3 a =>
    have ha := a.toNat_lt
    simp only [List.forall_mem_cons]
    exact ⟨by omega, by omega, by simp⟩
  | case4 => simp

/-- The octets are read back. -/
theorem octets_sextets (bytes : List UInt8) : octets (sextets bytes) = bytes := by
  fun_induction sextets bytes with
  | case1 a b c rest n ih =>
    have ha := a.toNat_lt
    have hb := b.toNat_lt
    have hc := c.toNat_lt
    have hn : ((n / 262144 * 64 + n / 4096 % 64) * 64 + n / 64 % 64) * 64 + n % 64 = n := by omega
    have hfirst : n / 65536 = a.toNat := by omega
    have hsecond : n / 256 % 256 = b.toNat := by omega
    have hthird : n % 256 = c.toNat := by omega
    rw [octets, ih]
    simp only [hn, hfirst, hsecond, hthird, UInt8.ofNat_toNat]
  | case2 a b n =>
    have ha := a.toNat_lt
    have hb := b.toNat_lt
    have hfirst : ((n / 1024 * 64 + n / 16 % 64) * 64 + n % 16 * 4) / 1024 = a.toNat := by omega
    have hsecond : ((n / 1024 * 64 + n / 16 % 64) * 64 + n % 16 * 4) / 4 % 256 = b.toNat := by omega
    simp only [octets, hfirst, hsecond, UInt8.ofNat_toNat]
  | case3 a =>
    have ha := a.toNat_lt
    have hfirst : (a.toNat / 4 * 64 + a.toNat % 4 * 16) / 16 = a.toNat := by omega
    simp only [octets, hfirst, UInt8.ofNat_toNat]
  | case4 => rfl

/-- The number of sextets when one octet is left. -/
theorem length_sextets {k : Nat} {bytes : List UInt8} (h : bytes.length = 3 * k + 1) :
    (sextets bytes).length = 4 * k + 2 := by
  induction k generalizing bytes with
  | zero =>
    obtain ⟨a, rfl⟩ := List.length_eq_one_iff.mp h
    rfl
  | succ k ih =>
    match bytes, h with
    | a :: b :: c :: rest, h =>
      have hrest : rest.length = 3 * k + 1 := by
        simp only [List.length_cons] at h
        omega
      simp only [sextets, List.length_cons, ih hrest]
      omega
    | [a, b], h | [a], h | [], h =>
      simp only [List.length_cons, List.length_nil] at h
      omega

/-! ## Texts -/

/-- The characters of the sextets. -/
def alphabet : List Char := "ABCDEFGHIJKLMNOPQRSTUVWXYZabcdefghijklmnopqrstuvwxyz0123456789+/".toList

/-- The character of a sextet. -/
def char (n : Nat) : Char := alphabet.getD n 'A'

/-- The sextet of a character, in this alphabet or in that of URLs. -/
def sextet? (c : Char) : Option Nat :=
  if 'A' ≤ c ∧ c ≤ 'Z' then some (c.toNat - 65)
  else if 'a' ≤ c ∧ c ≤ 'z' then some (c.toNat - 71)
  else if '0' ≤ c ∧ c ≤ '9' then some (c.toNat + 4)
  else if c = '+' ∨ c = '-' then some 62
  else if c = '/' ∨ c = '_' then some 63
  else none

/-- The padding after some octets. -/
def padding (length : Nat) : List Char :=
  match length % 3 with
  | 1 => ['=', '=']
  | 2 => ['=']
  | _ => []

/-- `buffer.toString('base64')`. -/
def encode (bytes : List UInt8) : List Char := (sextets bytes).map char ++ padding bytes.length

/-- `Buffer.from(text, 'base64')`: characters of no sextet are left out. -/
def decode (text : List Char) : List UInt8 := octets ((text.takeWhile (· != '=')).filterMap sextet?)

theorem char_spec {n : Nat} (h : n < 64) : sextet? (char n) = some n ∧ char n ≠ '=' ∧ char n ∈ alphabet := by
  have hall : ∀ n < 64, sextet? (char n) = some n ∧ char n ≠ '=' ∧ char n ∈ alphabet := by decide +kernel
  exact hall n h

theorem filterMap_char {l : List Nat} (h : ∀ n ∈ l, n < 64) : (l.map char).filterMap sextet? = l := by
  induction l with
  | nil => rfl
  | cons n l ih =>
    rw [List.forall_mem_cons] at h
    rw [List.map_cons, List.filterMap_cons_some (char_spec h.1).1, ih h.2]

theorem takeWhile_padding (length : Nat) : (padding length).takeWhile (· != '=') = [] := by
  unfold padding
  split <;> rfl

/-- **What is decoded is what was encoded.** -/
theorem decode_encode (bytes : List UInt8) : decode (encode bytes) = bytes := by
  have hlt := sextets_lt bytes
  have hpass : ∀ c ∈ (sextets bytes).map char, (c != '=') = true := by
    rw [List.forall_mem_map]
    intro n hn
    rw [bne_iff_ne]
    exact (char_spec (hlt n hn)).2.1
  rw [decode, encode, List.takeWhile_append_of_pos hpass, takeWhile_padding, List.append_nil, filterMap_char hlt,
    octets_sextets]

/-- The text of some octets of which one is left. -/
theorem encode_of_length {k : Nat} {bytes : List UInt8} (h : bytes.length = 3 * k + 1) :
    ∃ text : List Char, encode bytes = text ++ ['=', '='] ∧ text.length = 4 * k + 2 ∧ ∀ c ∈ text, c ∈ alphabet := by
  refine ⟨(sextets bytes).map char, ?_, ?_, ?_⟩
  · have hmod : bytes.length % 3 = 1 := by omega
    have hpadding : padding bytes.length = ['=', '='] := by
      simp only [padding, hmod]
    rw [encode, hpadding]
  · rw [List.length_map, length_sextets h]
  · rw [List.forall_mem_map]
    exact fun n hn => (char_spec (sextets_lt bytes n hn)).2.2

end VentureOS.Base64
