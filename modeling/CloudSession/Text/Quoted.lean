import CloudSession.Text.Printable

/-! # Quoted text

A text between quotes, with what cannot be printed written as an escape. The single quote is used
unless the text holds one and holds no double quote.
-/

namespace CloudSession.Text

/-- `n` in lower-case hexadecimal, filled with zeros to `width` digits. -/
def hex (width n : Nat) : List Char :=
  let digits := Nat.toDigits 16 n
  List.replicate (width - digits.length) '0' ++ digits

/-- The numbered escape of a character, as short as its code point allows. -/
def escape (c : Char) : List Char :=
  let n := c.toNat
  if n < 0x100 then '\\' :: 'x' :: hex 2 n
  else if n < 0x10000 then '\\' :: 'u' :: hex 4 n
  else '\\' :: 'U' :: hex 8 n

/-- A character inside quotes of the given kind. -/
def quoteChar (keep : Char → Bool) (mark c : Char) : List Char :=
  if c = mark || c = '\\' then ['\\', c]
  else if c = '\n' then ['\\', 'n']
  else if c = '\r' then ['\\', 'r']
  else if c = '\t' then ['\\', 't']
  else if keep c then [c]
  else escape c

/-- The quote a text is put in. -/
def quoteMark (cs : List Char) : Char :=
  if cs.contains '\'' && !cs.contains '"' then '"' else '\''

/-- A text in quotes, where `keep` tells the characters that stand for themselves. -/
def quoteWith (keep : Char → Bool) (s : String) : String :=
  let cs := s.toList
  let mark := quoteMark cs
  String.ofList (mark :: cs.flatMap (quoteChar keep mark) ++ [mark])

def quote (s : String) : String := quoteWith isPrintable s

/-- Escape every character beyond ASCII. -/
def toAscii (s : String) : String :=
  String.ofList (s.toList.flatMap fun c => if c.toNat < 128 then [c] else escape c)

end CloudSession.Text
