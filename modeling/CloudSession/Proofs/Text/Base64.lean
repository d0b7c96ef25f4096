import CloudSession.Text.Base64
import Mathlib.Tactic.Common

/-! # Reading base64

Four characters carry three bytes, and padding at the end tells that it were fewer. The strict
reader takes no other characters and no bits that no byte needs, so what it reads has been written
by the writer.
-/

namespace CloudSession.Text.Base64

/-- The characters that carry six bits, in the order of what they are worth. -/
def alphabet : List Char :=
  "ABCDEFGHIJKLMNOPQRSTUVWXYZabcdefghijklmnopqrstuvwxyz0123456789+/".toList

/-- The six bits that a character carries. -/
def sextet? (c : Char) : Option Nat := alphabet.idxOf? c

/-! The bytes between neighbouring groups of six bits. -/

def firstByte (x y : Nat) : UInt8 := UInt8.ofNat (x * 4 + y / 16)

def secondByte (y z : Nat) : UInt8 := UInt8.ofNat (y % 16 * 16 + z / 4)

def thirdByte (z w : Nat) : UInt8 := UInt8.ofNat (z % 4 * 64 + w)

/-- The bytes of a text in base64, if it is one. -/
def decode? : List Char → Option (List UInt8)
  | [] => some []
  | [a, b, '=', '='] => do
    let x ← sextet? a
    let y ← sextet? b
    if y % 16 = 0 then some [firstByte x y] else none
  | [a, b, c, '='] => do
    let x ← sextet? a
    let y ← sextet? b
    let z ← sextet? c
    if z % 4 = 0 then some [firstByte x y, secondByte y z] else none
  | a :: b :: c :: d :: rest => do
    let x ← sextet? a
    let y ← sextet? b
    let z ← sextet? c
    let w ← sextet? d
    let bytes ← decode? rest
    some (firstByte x y :: secondByte y z :: thirdByte z w :: bytes)
  | _ => none

theorem sextet?_symbol {n : Nat} (small : n < 64) : sextet? (symbol n) = some n := by
  have all : ∀ n : Fin 64, sextet? (symbol n) = some n.val := by decide +kernel
  exact all ⟨n, small⟩

theorem symbol_of_sextet? {c : Char} {n : Nat} (worth : sextet? c = some n) :
    n < 64 ∧ symbol n = c := by
  have all : alphabet = (List.range 64).map symbol := by decide +kernel
  obtain ⟨small, same, -⟩ := List.idxOf?_eq_some_iff.mp worth
  simp only [all, List.length_map, List.length_range] at small
  simp only [all, List.getElem_map, List.getElem_range] at same
  exact ⟨small, same⟩

theorem symbol_ne_padding {n : Nat} (small : n < 64) : symbol n ≠ '=' := by
  intro padding
  have worth := sextet?_symbol small
  rw [padding] at worth
  cases worth

/-! ## What was written is read -/

section

variable (a b c : UInt8)

theorem firstByte_eq : firstByte (a.toNat / 4) (a.toNat % 4 * 16 + b.toNat / 16) = a := by
  have range : b.toNat < 256 := b.toNat_lt
  have whole : a.toNat / 4 * 4 + (a.toNat % 4 * 16 + b.toNat / 16) / 16 = a.toNat := by omega
  rw [firstByte, whole, UInt8.ofNat_toNat]

theorem secondByte_eq : secondByte (a.toNat % 4 * 16 + b.toNat / 16)
    (b.toNat % 16 * 4 + c.toNat / 64) = b := by
  have range : b.toNat < 256 := b.toNat_lt
  have range' : c.toNat < 256 := c.toNat_lt
  have whole : (a.toNat % 4 * 16 + b.toNat / 16) % 16 * 16 +
      (b.toNat % 16 * 4 + c.toNat / 64) / 4 = b.toNat := by omega
  rw [secondByte, whole, UInt8.ofNat_toNat]

theorem thirdByte_eq : thirdByte (b.toNat % 16 * 4 + c.toNat / 64) (c.toNat % 64) = c := by
  have range : c.toNat < 256 := c.toNat_lt
  have whole : (b.toNat % 16 * 4 + c.toNat / 64) % 4 * 64 + c.toNat % 64 = c.toNat := by omega
  rw [thirdByte, whole, UInt8.ofNat_toNat]

end

/-- What was written in base64 is read as it was. -/
theorem decode?_encode (bytes : List UInt8) : decode? (encode bytes) = some bytes := by
  induction bytes using encode.induct with
  | case1 => rfl
  | case2 a =>
    have range : a.toNat < 256 := a.toNat_lt
    have x := sextet?_symbol (show a.toNat / 4 < 64 by omega)
    have y := sextet?_symbol (show a.toNat % 4 * 16 < 64 by omega)
    have first : firstByte (a.toNat / 4) (a.toNat % 4 * 16) = a := firstByte_eq a 0
    simp [encode, decode?, x, y, first]
  | case3 a b =>
    have range : a.toNat < 256 := a.toNat_lt
    have range' : b.toNat < 256 := b.toNat_lt
    have x := sextet?_symbol (show a.toNat / 4 < 64 by omega)
    have y := sextet?_symbol (show a.toNat % 4 * 16 + b.toNat / 16 < 64 by omega)
    have small : b.toNat % 16 * 4 < 64 := by omega
    have z := sextet?_symbol small
    have letter := symbol_ne_padding small
    have first := firstByte_eq a b
    have second : secondByte (a.toNat % 4 * 16 + b.toNat / 16) (b.toNat % 16 * 4) = b :=
      secondByte_eq a b 0
    simp [encode, decode?, x, y, z, first, second]
  | case4 a b c rest ih =>
    have range : a.toNat < 256 := a.toNat_lt
    have range' : b.toNat < 256 := b.toNat_lt
    have range'' : c.toNat < 256 := c.toNat_lt
    have x := sextet?_symbol (show a.toNat / 4 < 64 by omega)
    have y := sextet?_symbol (show a.toNat % 4 * 16 + b.toNat / 16 < 64 by omega)
    have z := sextet?_symbol (show b.toNat % 16 * 4 + c.toNat / 64 < 64 by omega)
    have small : c.toNat % 64 < 64 := by omega
    have w := sextet?_symbol small
    have letter := symbol_ne_padding small
    have first := firstByte_eq a b
    have second := secondByte_eq a b c
    have third := thirdByte_eq b c
    simp [encode, decode?, letter, x, y, z, w, first, second, third, ih]

/-! ## What is read was written -/

section

variable {x y z w : Nat} (x_small : x < 64) (y_small : y < 64) (z_small : z < 64) (w_small : w < 64)

include x_small y_small in
theorem toNat_firstByte : (firstByte x y).toNat = x * 4 + y / 16 := by
  rw [firstByte, UInt8.toNat_ofNat']
  omega

include z_small in
theorem toNat_secondByte : (secondByte y z).toNat = y % 16 * 16 + z / 4 := by
  rw [secondByte, UInt8.toNat_ofNat']
  omega

include w_small in
theorem toNat_thirdByte : (thirdByte z w).toNat = z % 4 * 64 + w := by
  rw [thirdByte, UInt8.toNat_ofNat']
  omega

include x_small y_small in
theorem encode_firstByte (padded : y % 16 = 0) :
    encode [firstByte x y] = [symbol x, symbol y, '=', '='] := by
  have first : (x * 4 + y / 16) / 4 = x := by omega
  have second : (x * 4 + y / 16) % 4 * 16 = y := by omega
  rw [encode, toNat_firstByte x_small y_small, first, second]

include x_small y_small z_small in
theorem encode_secondByte (padded : z % 4 = 0) :
    encode [firstByte x y, secondByte y z] = [symbol x, symbol y, symbol z, '='] := by
  have first : (x * 4 + y / 16) / 4 = x := by omega
  have second : (x * 4 + y / 16) % 4 * 16 + (y % 16 * 16 + z / 4) / 16 = y := by omega
  have third : (y % 16 * 16 + z / 4) % 16 * 4 = z := by omega
  rw [encode, toNat_firstByte x_small y_small, toNat_secondByte z_small, first, second, third]

include x_small y_small z_small w_small in
theorem encode_thirdByte (rest : List UInt8) :
    encode (firstByte x y :: secondByte y z :: thirdByte z w :: rest) =
      symbol x :: symbol y :: symbol z :: symbol w :: encode rest := by
  have first : (x * 4 + y / 16) / 4 = x := by omega
  have second : (x * 4 + y / 16) % 4 * 16 + (y % 16 * 16 + z / 4) / 16 = y := by omega
  have third : (y % 16 * 16 + z / 4) % 16 * 4 + (z % 4 * 64 + w) / 64 = z := by omega
  have fourth : (z % 4 * 64 + w) % 64 = w := by omega
  rw [encode, toNat_firstByte x_small y_small, toNat_secondByte z_small, toNat_thirdByte w_small,
    first, second, third, fourth]

end

/-- Nothing else is read than what was written. -/
theorem eq_encode_of_decode? {cs : List Char} {bytes : List UInt8}
    (reads : decode? cs = some bytes) : cs = encode bytes := by
  fun_induction decode? cs generalizing bytes with
  | case1 =>
    cases reads
    rfl
  | case2 a b =>
    simp only [Option.bind_eq_bind, Option.bind_eq_some_iff, Option.ite_none_right_eq_some,
      Option.some.injEq] at reads
    obtain ⟨x, hx, y, hy, padded, rfl⟩ := reads
    obtain ⟨x_small, rfl⟩ := symbol_of_sextet? hx
    obtain ⟨y_small, rfl⟩ := symbol_of_sextet? hy
    exact (encode_firstByte x_small y_small padded).symm
  | case3 a b c other =>
    simp only [Option.bind_eq_bind, Option.bind_eq_some_iff, Option.ite_none_right_eq_some,
      Option.some.injEq] at reads
    obtain ⟨x, hx, y, hy, z, hz, padded, rfl⟩ := reads
    obtain ⟨x_small, rfl⟩ := symbol_of_sextet? hx
    obtain ⟨y_small, rfl⟩ := symbol_of_sextet? hy
    obtain ⟨z_small, rfl⟩ := symbol_of_sextet? hz
    exact (encode_secondByte x_small y_small z_small padded).symm
  | case4 a b c d rest other other' ih =>
    simp only [Option.bind_eq_bind, Option.bind_eq_some_iff, Option.some.injEq] at reads
    obtain ⟨x, hx, y, hy, z, hz, w, hw, more, behind, rfl⟩ := reads
    obtain ⟨x_small, rfl⟩ := symbol_of_sextet? hx
    obtain ⟨y_small, rfl⟩ := symbol_of_sextet? hy
    obtain ⟨z_small, rfl⟩ := symbol_of_sextet? hz
    obtain ⟨w_small, rfl⟩ := symbol_of_sextet? hw
    rw [encode_thirdByte x_small y_small z_small w_small, ih behind]
  | case5 => cases reads

/-- The texts in base64 are just those that are written for bytes. -/
theorem decode?_eq_some_iff {cs : List Char} {bytes : List UInt8} :
    decode? cs = some bytes ↔ cs = encode bytes := by
  constructor
  · exact eq_encode_of_decode?
  · rintro rfl
    exact decode?_encode bytes

/-! ## What it is written with -/

theorem symbol_mem (n : Nat) : symbol n ∈ alphabet := by
  by_cases small : n < 64
  · have all : ∀ n : Fin 64, symbol n ∈ alphabet := by decide +kernel
    exact all ⟨n, small⟩
  · have last : symbol n = '/' := by
      rw [symbol, if_neg (by omega), if_neg (by omega), if_neg (by omega), if_neg (by omega)]
    rw [last]
    decide

/-- Base64 is written with the letters of its alphabet and with padding. -/
theorem mem_encode (bytes : List UInt8) : ∀ c ∈ encode bytes, c ∈ '=' :: alphabet := by
  induction bytes using encode.induct with
  | case1 => simp [encode]
  | case2 a => simp [encode, symbol_mem]
  | case3 a b => simp [encode, symbol_mem]
  | case4 a b c rest ih => simpa [encode, symbol_mem] using ih

/-- The alphabet is of ASCII, and no line ends in it. -/
theorem plain_of_mem {c : Char} (letter : c ∈ '=' :: alphabet) :
    c.toNat < 128 ∧ c ≠ '\n' ∧ c ≠ '\r' := by
  have all : ('=' :: alphabet).all (fun c => c.toNat < 128 && c != '\n' && c != '\r') := by
    decide +kernel
  simpa [and_assoc] using List.all_eq_true.mp all c letter

end CloudSession.Text.Base64
