import CloudSession.Text.Charset
import Mathlib.Tactic.Common

/-! # Text in UTF-8

A text that was written in UTF-8 is read as it was: each character takes one to four bytes, and
after its last byte just that character has been read.
-/

namespace CloudSession.Text

/-! ## Bytes of a text -/

theorem toList_loop (bytes : ByteArray) (i : Nat) (front : List UInt8) :
    ByteArray.toList.loop bytes i front = front.reverse ++ bytes.data.toList.drop i := by
  fun_induction ByteArray.toList.loop bytes i front with
  | case1 i front within ih =>
    have here : i < bytes.data.toList.length := by simpa using within
    rw [ih, List.drop_eq_getElem_cons here]
    simp [ByteArray.get!, within]
  | case2 i front beyond =>
    rw [List.drop_eq_nil_of_le (by simpa using beyond), List.append_nil]

/-- The bytes of a text are those of its characters. -/
theorem utf8_eq (s : String) : utf8 s = s.toList.flatMap String.utf8EncodeChar := by
  rw [utf8, String.toUTF8_eq_toByteArray, ← String.utf8Encode_toList, ByteArray.toList, toList_loop,
    List.drop_zero]
  exact List.toList_data_toByteArray

/-! ## Reading a character -/

namespace Charset

open Reading

variable {read : List Char} {bits low high : Nat}

theorem next_of_single {byte : UInt8} {c : Char} (single : first byte.toNat = .inl c) :
    next { read := read } byte = { read := c :: read } := by
  simp [next, start, single]

theorem next_of_starts {byte : UInt8} {started : Started}
    (starts : first byte.toNat = .inr started) :
    next { read := read } byte = { read := read, started := some started } := by
  simp [next, start, starts]

/-- A byte behind the first one carries six bits. -/
theorem toNat_tail (n : Nat) : (UInt8.ofNat (n % 64 + 128)).toNat = n % 64 + 0x80 := by
  rw [UInt8.toNat_ofNat']
  omega

theorem next_last (n : Nat) (reaches : low ≤ n % 64 + 0x80) (within : n % 64 + 0x80 ≤ high) :
    next { read := read, started := some ⟨bits, 1, low, high⟩ } (UInt8.ofNat (n % 64 + 128)) =
      { read := Char.ofNat (bits * 64 + n % 64) :: read } := by
  have six_bits : (n % 64 + 0x80) % 64 = n % 64 := by omega
  simp only [next, toNat_tail, reaches, within, six_bits, decide_true, Bool.and_self, if_true]

theorem next_more {left : Nat} (n : Nat) (reaches : low ≤ n % 64 + 0x80)
    (within : n % 64 + 0x80 ≤ high) :
    next { read := read, started := some ⟨bits, left + 2, low, high⟩ }
        (UInt8.ofNat (n % 64 + 128)) =
      { read := read, started := some ⟨bits * 64 + n % 64, left + 1, 0x80, 0xBF⟩ } := by
  have six_bits : (n % 64 + 0x80) % 64 = n % 64 := by omega
  simp only [next, toNat_tail, reaches, within, six_bits, decide_true, Bool.and_self, if_true]

/-! The first byte of a character tells how many bytes are to come, and which the next one may be.
-/

theorem first_of_two {v : Nat} (long : 0x80 ≤ v) (short : v < 0x800) :
    first (v / 64 + 0xC0) = .inr ⟨v / 64, 1, 0x80, 0xBF⟩ := by
  have bits : v / 64 + 0xC0 - 0xC0 = v / 64 := by omega
  rw [first, if_neg (by omega), if_neg (by omega), if_pos (by omega), bits]

theorem exists_first_of_three {v : Nat} (long : 0x800 ≤ v) (short : v < 0x10000)
    (whole : v < 0xD800 ∨ 0xDFFF < v) : ∃ low high,
      first (v / 4096 + 0xE0) = .inr ⟨v / 4096, 2, low, high⟩ ∧
        low ≤ v / 64 % 64 + 0x80 ∧ v / 64 % 64 + 0x80 ≤ high := by
  by_cases least : v / 4096 = 0
  · exact ⟨0xA0, 0xBF, by rw [least]; rfl, by omega, by omega⟩
  by_cases split : v / 4096 = 0xD
  · exact ⟨0x80, 0x9F, by rw [split]; rfl, by omega, by omega⟩
  · refine ⟨0x80, 0xBF, ?_, by omega, by omega⟩
    have bits : v / 4096 + 0xE0 - 0xE0 = v / 4096 := by omega
    rw [first, if_neg (by omega), if_neg (by omega), if_neg (by omega), if_neg (by omega),
      if_neg (by omega), if_pos (by omega), bits]

theorem exists_first_of_four {v : Nat} (long : 0x10000 ≤ v) (short : v < 0x110000) : ∃ low high,
    first (v / 262144 + 0xF0) = .inr ⟨v / 262144, 3, low, high⟩ ∧
      low ≤ v / 4096 % 64 + 0x80 ∧ v / 4096 % 64 + 0x80 ≤ high := by
  by_cases least : v / 262144 = 0
  · exact ⟨0x90, 0xBF, by rw [least]; rfl, by omega, by omega⟩
  by_cases greatest : v / 262144 = 4
  · exact ⟨0x80, 0x8F, by rw [greatest]; rfl, by omega, by omega⟩
  · refine ⟨0x80, 0xBF, ?_, by omega, by omega⟩
    have bits : v / 262144 + 0xF0 - 0xF0 = v / 262144 := by omega
    rw [first, if_neg (by omega), if_neg (by omega), if_neg (by omega), if_neg (by omega),
      if_neg (by omega), if_neg (by omega), if_neg (by omega), if_pos (by omega), bits]

/-- The bytes of a character are read as that character, whatever was read before. -/
theorem foldl_next_utf8EncodeChar (c : Char) (read : List Char) :
    (String.utf8EncodeChar c).foldl next { read := read } = { read := c :: read } := by
  have same : Char.ofNat c.val.toNat = c := Char.ofNat_toNat c
  have whole : c.val.toNat < 0xD800 ∨ 0xDFFF < c.val.toNat ∧ c.val.toNat < 0x110000 := c.valid
  rw [String.utf8EncodeChar]
  generalize c.val.toNat = v at same whole
  split_ifs with one two three
  · have byte : (UInt8.ofNat v).toNat = v := by
      rw [UInt8.toNat_ofNat']
      omega
    have single : first (UInt8.ofNat v).toNat = .inl c := by
      rw [byte, first, if_pos (by omega), same]
    exact next_of_single single
  · have byte : (UInt8.ofNat (v / 64 % 32 + 192)).toNat = v / 64 + 0xC0 := by
      rw [UInt8.toNat_ofNat']
      omega
    have starts : first (UInt8.ofNat (v / 64 % 32 + 192)).toNat = _ :=
      byte ▸ first_of_two (by omega) (by omega)
    have all : v / 64 * 64 + v % 64 = v := by omega
    simp only [List.foldl_cons, List.foldl_nil, next_of_starts starts]
    rw [next_last v (by omega) (by omega), all, same]
  · have byte : (UInt8.ofNat (v / 4096 % 16 + 224)).toNat = v / 4096 + 0xE0 := by
      rw [UInt8.toNat_ofNat']
      omega
    obtain ⟨low, high, starts, reaches, within⟩ :=
      exists_first_of_three (v := v) (by omega) (by omega) (by omega)
    have all : (v / 4096 * 64 + v / 64 % 64) * 64 + v % 64 = v := by omega
    simp only [List.foldl_cons, List.foldl_nil, next_of_starts (byte ▸ starts)]
    rw [next_more (v / 64) reaches within, next_last v (by omega) (by omega), all, same]
  · have byte : (UInt8.ofNat (v / 262144 % 8 + 240)).toNat = v / 262144 + 0xF0 := by
      rw [UInt8.toNat_ofNat']
      omega
    obtain ⟨low, high, starts, reaches, within⟩ :=
      exists_first_of_four (v := v) (by omega) (by omega)
    have all : ((v / 262144 * 64 + v / 4096 % 64) * 64 + v / 64 % 64) * 64 + v % 64 = v := by
      omega
    simp only [List.foldl_cons, List.foldl_nil, next_of_starts (byte ▸ starts)]
    rw [next_more (v / 4096) reaches within, next_more (v / 64) (by omega) (by omega),
      next_last v (by omega) (by omega), all, same]

theorem foldl_next_utf8 (cs : List Char) (read : List Char) :
    (cs.flatMap String.utf8EncodeChar).foldl next { read := read } =
      { read := cs.reverse ++ read } := by
  induction cs generalizing read with
  | nil => rfl
  | cons c cs ih =>
    rw [List.flatMap_cons, List.foldl_append, foldl_next_utf8EncodeChar, ih]
    simp

/-- A text is read as it was written. -/
theorem decode_utf8 (s : String) : decode .utf8 (Text.utf8 s) = s := by
  show String.ofList (fromUtf8 (Text.utf8 s)) = s
  rw [fromUtf8, utf8_eq, foldl_next_utf8]
  simp [finish]

end Charset

/-- The text of bytes that are nothing but text. -/
def ofUtf8? (bytes : List UInt8) : Option String :=
  let s := Charset.decode .utf8 bytes
  if utf8 s = bytes then some s else none

theorem ofUtf8?_eq_some_iff {bytes : List UInt8} {s : String} :
    ofUtf8? bytes = some s ↔ bytes = utf8 s := by
  unfold ofUtf8?
  constructor
  · simp only [Option.ite_none_right_eq_some, Option.some.injEq]
    rintro ⟨same, rfl⟩
    exact same.symm
  · rintro rfl
    simp only [Charset.decode_utf8, if_true]

end CloudSession.Text
