import CloudSession.Text.LowerCase

/-! # Charsets

Bytes read as text. Bytes that are no text become U+FFFD: in UTF-8 one for each longest start of a
character that is broken off, in UTF-16 one for each unit that is no character, and one for what the
end breaks off.
-/

namespace CloudSession.Text

/-- Which byte of a unit comes first. -/
inductive ByteOrder where
  | littleEnd
  | bigEnd
  deriving Repr, DecidableEq

inductive Charset where
  | utf8
  /-- UTF-8 behind a mark that is no part of the text. -/
  | markedUtf8
  | latin1
  | ascii
  | windows1252
  /-- Where no order is given a mark in front tells it, and without a mark the low byte comes
  first. -/
  | utf16 (order : Option ByteOrder)
  deriving Repr, DecidableEq

/-- Stands for bytes that are no text. -/
def replacement : Char := Char.ofNat 0xFFFD

namespace Charset

/-! ## Names -/

/-- Letters, digits and points of a name, in lower case; whatever stands between them counts as one
underscore. -/
def plainName (name : String) : String := String.ofList (plain false false name.toList)
where
  plain (started gap : Bool) : List Char → List Char
    | [] => []
    | c :: rest =>
      if c.isAlphanum || c == '.' then
        if started && gap then '_' :: c.toLower :: plain true false rest
        else c.toLower :: plain true false rest
      else plain started true rest

/-- The charset of which this is the own name. -/
def ofOwnName? : String → Option Charset
  | "utf_8" => some .utf8
  | "utf_8_sig" => some .markedUtf8
  | "latin_1" | "iso8859_1" => some .latin1
  | "ascii" => some .ascii
  | "cp1252" => some .windows1252
  | "utf_16" => some (.utf16 none)
  | "utf_16_le" => some (.utf16 (some .littleEnd))
  | "utf_16_be" => some (.utf16 (some .bigEnd))
  | _ => none

/-- The charset that goes by this name too. -/
def ofAlias? : String → Option Charset
  | "u8" | "utf" | "utf8" | "utf8_ucs2" | "utf8_ucs4" | "cp65001" => some .utf8
  | "8859" | "cp819" | "csisolatin1" | "ibm819" | "iso8859" | "iso_8859_1" | "iso_8859_1_1987"
  | "iso_ir_100" | "l1" | "latin" | "latin1" => some .latin1
  | "646" | "ansi_x3.4_1968" | "ansi_x3_4_1968" | "ansi_x3.4_1986" | "cp367" | "csascii"
  | "ibm367" | "iso646_us" | "iso_646.irv_1991" | "iso_ir_6" | "us" | "us_ascii" => some .ascii
  | "1252" | "windows_1252" => some .windows1252
  | "u16" | "utf16" => some (.utf16 none)
  | "utf_16le" | "unicodelittleunmarked" => some (.utf16 (some .littleEnd))
  | "utf_16be" | "unicodebigunmarked" => some (.utf16 (some .bigEnd))
  | _ => none

/-- The charset announced under a name; none when it is none of these. -/
def named? (name : String) : Option Charset :=
  let name := plainName name
  let undotted := String.ofList (name.toList.map fun c => if c == '.' then '_' else c)
  ofOwnName? name <|> ofAlias? name <|> ofAlias? undotted

/-! ## UTF-8 -/

/-- The start of a character of several bytes: its bits so far, how many bytes are to come, and
the range of the next one. -/
structure Started where
  bits : Nat
  left : Nat
  low : Nat
  high : Nat

/-- What a first byte starts, or the character it is. -/
def first (b : Nat) : Char ⊕ Started :=
  if b < 0x80 then .inl (Char.ofNat b)
  else if b < 0xC2 then .inl replacement
  else if b < 0xE0 then .inr ⟨b - 0xC0, 1, 0x80, 0xBF⟩
  else if b = 0xE0 then .inr ⟨0, 2, 0xA0, 0xBF⟩
  else if b = 0xED then .inr ⟨0xD, 2, 0x80, 0x9F⟩
  else if b < 0xF0 then .inr ⟨b - 0xE0, 2, 0x80, 0xBF⟩
  else if b = 0xF0 then .inr ⟨0, 3, 0x90, 0xBF⟩
  else if b < 0xF4 then .inr ⟨b - 0xF0, 3, 0x80, 0xBF⟩
  else if b = 0xF4 then .inr ⟨4, 3, 0x80, 0x8F⟩
  else .inl replacement

/-- Reading state: the characters so far, last one first, and the character under way. -/
structure Reading where
  read : List Char := []
  started : Option Started := none

namespace Reading

/-- Read a byte that starts anew. -/
def start (r : Reading) (b : Nat) : Reading :=
  match first b with
  | .inl c => { read := c :: r.read }
  | .inr s => { r with started := some s }

/-- Read the next byte: it continues the character under way, or breaks it off and starts anew. -/
def next (r : Reading) (byte : UInt8) : Reading :=
  let b := byte.toNat
  match r.started with
  | none => r.start b
  | some s =>
    if s.low ≤ b && b ≤ s.high then
      let bits := s.bits * 64 + b % 64
      match s.left with
      | 0 | 1 => { read := Char.ofNat bits :: r.read }
      | left + 1 => { r with started := some ⟨bits, left, 0x80, 0xBF⟩ }
    else ({ read := replacement :: r.read : Reading }).start b

/-- The text read, a character broken off by the end included. -/
def finish (r : Reading) : List Char :=
  match r.started with
  | none => r.read.reverse
  | some _ => (replacement :: r.read).reverse

end Reading

/-- The characters of bytes in UTF-8. -/
def fromUtf8 (bytes : List UInt8) : List Char := (bytes.foldl Reading.next {}).finish

/-! ## UTF-16 -/

def unit (order : ByteOrder) (a b : UInt8) : Nat :=
  match order with
  | .littleEnd => a.toNat + 256 * b.toNat
  | .bigEnd => b.toNat + 256 * a.toNat

/-- The characters of bytes in UTF-16. A character beyond the first plane takes two units, each of
which is none on its own. -/
def fromUtf16 (order : ByteOrder) : List UInt8 → List Char
  | [] => []
  | [_] => [replacement]
  | a :: b :: rest =>
    let first := unit order a b
    if 0xD800 ≤ first ∧ first < 0xDC00 then
      match rest with
      | [] | [_] => [replacement]
      | c :: d :: more =>
        let second := unit order c d
        if 0xDC00 ≤ second ∧ second < 0xE000 then
          Char.ofNat (0x10000 + (first - 0xD800) * 0x400 + (second - 0xDC00)) ::
            fromUtf16 order more
        else replacement :: fromUtf16 order (c :: d :: more)
    else if 0xDC00 ≤ first ∧ first < 0xE000 then replacement :: fromUtf16 order rest
    else Char.ofNat first :: fromUtf16 order rest

/-- The order that a mark in front tells, and the bytes behind the mark. -/
def splitMark : List UInt8 → ByteOrder × List UInt8
  | 0xFF :: 0xFE :: rest => (.littleEnd, rest)
  | 0xFE :: 0xFF :: rest => (.bigEnd, rest)
  | bytes => (.littleEnd, bytes)

/-! ## Bytes that are characters -/

/-- The characters from 0x80 to 0x9F in Windows-1252, some of which are none. -/
def windows1252Middle : List Nat :=
  [0x20AC, 0xFFFD, 0x201A, 0x0192, 0x201E, 0x2026, 0x2020, 0x2021, 0x02C6, 0x2030, 0x0160, 0x2039,
    0x0152, 0xFFFD, 0x017D, 0xFFFD, 0xFFFD, 0x2018, 0x2019, 0x201C, 0x201D, 0x2022, 0x2013, 0x2014,
    0x02DC, 0x2122, 0x0161, 0x203A, 0x0153, 0xFFFD, 0x017E, 0x0178]

def fromWindows1252 (b : UInt8) : Char :=
  if 0x80 ≤ b ∧ b < 0xA0 then Char.ofNat (windows1252Middle[b.toNat - 0x80]?.getD 0xFFFD)
  else Char.ofNat b.toNat

/-- The text of bytes. -/
def decode (charset : Charset) (bytes : List UInt8) : String :=
  String.ofList (match charset with
    | .utf8 => fromUtf8 bytes
    | .markedUtf8 =>
      match bytes with
      | 0xEF :: 0xBB :: 0xBF :: rest => fromUtf8 rest
      | bytes => fromUtf8 bytes
    | .latin1 => bytes.map fun b => Char.ofNat b.toNat
    | .ascii => bytes.map fun b => if b < 0x80 then Char.ofNat b.toNat else replacement
    | .windows1252 => bytes.map fromWindows1252
    | .utf16 (some order) => fromUtf16 order bytes
    | .utf16 none => let (order, rest) := splitMark bytes; fromUtf16 order rest)

end Charset

/-- The bytes of a text in UTF-8. -/
def utf8 (s : String) : List UInt8 := s.toUTF8.toList

end CloudSession.Text
