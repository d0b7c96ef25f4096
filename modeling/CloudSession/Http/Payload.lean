import CloudSession.Http.Response

/-! # Reading a body

A body is read chunk by chunk up to a limit, or as a whole text. Either way tells what was read,
or how reading failed, and what is left of the response.
-/

namespace CloudSession

/-- How many bytes of a loaded body make up a chunk. -/
def chunkSize : Nat := 4096

/-- Bytes in chunks of the usual size. -/
def slices : (fuel : Nat) → List UInt8 → List (List UInt8)
  | 0, _ => []
  | _, [] => []
  | fuel + 1, bytes => bytes.take chunkSize :: slices fuel (bytes.drop chunkSize)

/-- The first `limit` bytes; a negative limit counts from the end. -/
def cutBytes (limit : Int) (bytes : List UInt8) : List UInt8 :=
  if 0 ≤ limit then bytes.take limit.toNat else bytes.take (bytes.length + limit).toNat

/-- What a bounded reader took: the bytes, the chunks it left, and whether it met the end. -/
structure Taken where
  bytes : List UInt8
  left : List (List UInt8)
  ended : Bool

/-- Take chunks until at least `limit` bytes are there; empty chunks do not count. The pieces
taken before are given last piece first. -/
def takeChunks (limit : Int) (size : Nat) (taken : List (List UInt8)) :
    List (List UInt8) → Taken
  | [] => ⟨taken.reverse.flatten, [], true⟩
  | [] :: rest => takeChunks limit size taken rest
  | chunk :: rest =>
    if limit ≤ ((size + chunk.length : Nat) : Int) then
      ⟨(chunk :: taken).reverse.flatten, rest, false⟩
    else takeChunks limit (size + chunk.length) (chunk :: taken) rest

/-- How reading a body fails. -/
inductive ReadFailure where
  | breaks (plan : FaultPlan)
  | consumed
  /-- The body was read before, chunk by chunk, and is asked for as a whole. -/
  | gone
  /-- The limit of the reader is no whole number. -/
  | unlimited
  /-- The codec of the charset refuses the bytes. -/
  | garbled (plan : FaultPlan)

namespace ReadFailure

/-- The fault a failure to read ends on. -/
def plan : ReadFailure → FaultPlan
  | .breaks p => p
  | .consumed => .ofKind (.line .consumed)
  | .gone => .ofKind .runtime
  | .unlimited => .ofKind .type
  | .garbled p => p

end ReadFailure

namespace Response

/-- Take bytes up to a limit. -/
def takeBytes (r : Response) (limit : Int) : Except ReadFailure (List UInt8) × Response :=
  match r.body with
  | .loaded bytes =>
    (.ok (cutBytes limit (takeChunks limit 0 [] (slices bytes.length bytes)).bytes), r)
  | .pending chunks =>
    let taken := takeChunks limit 0 [] chunks
    let bytes := cutBytes limit taken.bytes
    if taken.ended then
      match r.breaks with
      | some p => (.error (.breaks p), { r with body := .pending [] })
      | none => (.ok bytes, { r with body := .consumed })
    else (.ok bytes, { r with body := .pending taken.left })
  | .dropped => (.ok [], { r with body := .consumed })
  | .consumed => (.error .consumed, r)

/-- Take bytes up to a limit that comes from settings. A limit is compared with the bytes that came,
and then cuts them. Any number can be compared but only a whole one can cut; where there is no
limit nothing is to be cut, but nothing can be compared either. -/
def takeUpTo (r : Response) (limit : Value) : Except ReadFailure (List UInt8) × Response :=
  match limit with
  | .bool b => r.takeBytes (if b then 1 else 0)
  | .number (.whole n) => r.takeBytes n
  | .number x =>
    let (result, after) := r.takeBytes x.ceil
    (result.bind fun _ => .error .unlimited, after)
  | limit =>
    let (result, after) := r.takeBytes 1
    let absent := limit matches .null
    (result.bind fun bytes => if absent && bytes.isEmpty then .ok [] else .error .unlimited, after)

/-- Bytes as text in the charset of a name. Where there is no codec of that name they are read as
UTF-8, but a codec that refuses them has the last word. -/
def decodeAs (r : Response) (name : Option String) (bytes : List UInt8) :
    Except ReadFailure String :=
  match name.bind r.codecs with
  | some codec => (codec bytes).mapError .garbled
  | none => .ok (Text.Charset.utf8.decode bytes)

/-- Bytes as text in the charset that was announced; an empty name announces none. -/
def decode (r : Response) (bytes : List UInt8) : Except ReadFailure String :=
  r.decodeAs (r.charset.filter (· ≠ "")) bytes

/-- The bytes of a whole body as text, in the charset they look to be in when none was announced. No
bytes are no text, whatever the charset. -/
def textOf (r : Response) (bytes : List UInt8) : Except ReadFailure String :=
  if bytes.isEmpty then .ok "" else r.decodeAs (r.charset <|> r.guess bytes) bytes

/-- The whole text. The body is kept for the next reader, if it came. -/
def text (r : Response) : Except ReadFailure String × Response :=
  match r.body with
  | .loaded bytes => (r.textOf bytes, r)
  | .pending chunks =>
    match r.breaks with
    | some p => (.error (.breaks p), { r with body := .pending [] })
    | none =>
      let bytes := chunks.flatten
      (r.textOf bytes, { r with body := .loaded bytes })
  | .dropped => (.ok "", { r with body := .loaded [] })
  | .consumed => (.error .gone, r)

end Response

end CloudSession
