import CloudSession.Fault
import CloudSession.Text.Charset

/-! # Codecs

What a program has to read bytes with. A charset is announced by a name, under which the program may
have a codec or not; and a codec may refuse bytes, which is no reason to try another one. Responses
are read with whatever codecs they come with.
-/

namespace CloudSession

/-- Reads bytes as text, or refuses them with a fault. -/
abbrev Codec := List UInt8 → Except FaultPlan String

/-- The codecs that a program has, by the names of charsets. -/
abbrev Codecs := String → Option Codec

namespace Codecs

/-- A codec of a charset. It refuses nothing. -/
def ofCharset (charset : Text.Charset) : Codec := fun bytes => .ok (charset.decode bytes)

/-- A codec that cannot put anything in the place of bytes that are no text. It is not even asked
about no bytes. -/
def strict : Codec := fun bytes =>
  if bytes.isEmpty then .ok ""
  else .error (.fault { kind := .unicode } (some (.ofKind .unicode)) none)

/-- The codecs of the charsets here, of host names and of the charset that is never to be used.
Nothing can be looked up under a name with a zero character in it. -/
def standard : Codecs := fun name =>
  if name.toList.contains (Char.ofNat 0) then some fun _ => .error (.ofKind .value)
  else if ["idna", "undefined"].contains (Text.Charset.plainName name) then some strict
  else (Text.Charset.named? name).map ofCharset

end Codecs

end CloudSession
