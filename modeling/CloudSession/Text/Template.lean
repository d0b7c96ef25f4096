import CloudSession.Value.Text

/-! # Message templates

A template is literal text with directives. `%(name)s` stands for a field, `%%` for a percent
sign, and a directive may carry flags, a width, a precision and a conversion. A directive without
a name stands for what is at hand: all the fields at first, and after a named directive nothing.
-/

namespace CloudSession.Text.Template

inductive Failure where
  | missing
  | malformed
  /-- A value does not suit its conversion, or there is no value left. -/
  | mismatch
  /-- A number lies beyond what the conversion can write, or the text would be too wide. -/
  | overflow
  deriving Repr, DecidableEq

/-- Flags, width and precision of a directive. -/
structure Layout where
  left : Bool := false
  plus : Bool := false
  space : Bool := false
  alternate : Bool := false
  zero : Bool := false
  width : Option Nat := none
  precision : Option Nat := none

/-- What a directive without a name stands for. -/
inductive AtHand where
  | value (v : Value)
  | used

/-- Largest width a template may name. -/
def widthLimit : Nat := Nat.pow 2 63 - 1

/-- Largest precision a template may name. -/
def precisionLimit : Nat := Nat.pow 2 31 - 1

/-- Most characters that padding makes up: what would be wider does not fit into memory. -/
def paddingLimit : Nat := Nat.pow 2 30

/-- Whether a directive asks for a text that is too wide. The precision of a text shortens it, that
of a number makes it longer. -/
def Layout.isTooWide (layout : Layout) (conversion : Char) : Bool :=
  layout.width.any (paddingLimit < ·) ||
    ("diuoxXeEfFgG".toList.contains conversion && layout.precision.any (paddingLimit < ·))

/-- Split a field name, which may hold balanced parentheses, from what follows it. -/
def splitName : (depth : Nat) → (name : List Char) → List Char → Option (String × List Char)
  | _, _, [] => none
  | depth, name, ')' :: rest =>
    match depth with
    | 0 => some (String.ofList name.reverse, rest)
    | d + 1 => splitName d (')' :: name) rest
  | depth, name, '(' :: rest => splitName (depth + 1) ('(' :: name) rest
  | depth, name, c :: rest => splitName depth (c :: name) rest

def takeFlags (layout : Layout) : List Char → Layout × List Char
  | '-' :: rest => takeFlags { layout with left := true } rest
  | '+' :: rest => takeFlags { layout with plus := true } rest
  | ' ' :: rest => takeFlags { layout with space := true } rest
  | '#' :: rest => takeFlags { layout with alternate := true } rest
  | '0' :: rest => takeFlags { layout with zero := true } rest
  | cs => (layout, cs)

/-- Read decimal digits that add up to at most `limit`. -/
def takeNumber (limit : Nat) (acc : Nat) : List Char → Except Failure (Nat × List Char)
  | [] => .ok (acc, [])
  | c :: rest =>
    if '0' ≤ c && c ≤ '9' then
      let digit := c.toNat - '0'.toNat
      if acc > (limit - digit) / 10 then .error .malformed
      else takeNumber limit (acc * 10 + digit) rest
    else .ok (acc, c :: rest)

def AtHand.take : AtHand → Except Failure Value
  | .value v => .ok v
  | .used => .error .mismatch

def starNumber (v : Value) : Except Failure Int :=
  match v with
  | .number (.whole n) => .ok n
  | .bool b => .ok (if b then 1 else 0)
  | _ => .error .mismatch

def takeWidth (layout : Layout) (hand : AtHand) (cs : List Char) :
    Except Failure (Layout × AtHand × List Char) := do
  match cs with
  | '*' :: rest =>
    let n ← starNumber (← hand.take)
    if n.natAbs > widthLimit then throw .overflow
    let layout := if n < 0 then { layout with left := true } else layout
    return ({ layout with width := some n.natAbs }, .used, rest)
  | c :: _ =>
    if '0' ≤ c && c ≤ '9' then
      let (n, rest) ← takeNumber widthLimit 0 cs
      return ({ layout with width := some n }, hand, rest)
    else return (layout, hand, cs)
  | [] => return (layout, hand, cs)

def takePrecision (layout : Layout) (hand : AtHand) (cs : List Char) :
    Except Failure (Layout × AtHand × List Char) := do
  match cs with
  | '.' :: '*' :: rest =>
    let n ← starNumber (← hand.take)
    if n.natAbs > precisionLimit then throw .overflow
    return ({ layout with precision := some n.toNat }, .used, rest)
  | '.' :: rest =>
    let (n, rest) ← takeNumber precisionLimit 0 rest
    return ({ layout with precision := some n }, hand, rest)
  | _ => return (layout, hand, cs)

/-- A size mark before the conversion has no meaning. -/
def dropSize : List Char → List Char
  | 'h' :: rest => rest
  | 'l' :: rest => rest
  | 'L' :: rest => rest
  | cs => cs

/-- Pad `body`, written behind a sign and a base mark, to the width: zeros go between mark and
body, blanks go outside. -/
def pad (layout : Layout) (zeroFill : Bool) (sign mark body : List Char) : List Char :=
  let gap := layout.width.getD 0 - (sign.length + mark.length + body.length)
  if layout.left then sign ++ mark ++ body ++ List.replicate gap ' '
  else if zeroFill then sign ++ mark ++ List.replicate gap '0' ++ body
  else List.replicate gap ' ' ++ sign ++ mark ++ body

/-- Text cut to the precision and padded to the width. -/
def fillText (layout : Layout) (s : String) : List Char :=
  let cs := match layout.precision with
    | some p => s.toList.take p
    | none => s.toList
  pad layout false [] [] cs

/-- The sign a number is written with. -/
def signOf (layout : Layout) (negative : Bool) : List Char :=
  if negative then ['-'] else if layout.plus then ['+'] else if layout.space then [' '] else []

/-- A whole number in the base of its conversion. -/
def fillWhole (layout : Layout) (conversion : Char) (n : Int) : List Char :=
  let base :=
    if conversion = 'o' then 8 else if conversion = 'x' || conversion = 'X' then 16 else 10
  let digits := Nat.toDigits base n.natAbs
  let digits := List.replicate (layout.precision.getD 0 - digits.length) '0' ++ digits
  let mark := if layout.alternate && base ≠ 10 then ['0', if base = 8 then 'o' else 'x'] else []
  let upper := fun (cs : List Char) => if conversion = 'X' then cs.map Char.toUpper else cs
  pad layout layout.zero (signOf layout (n < 0)) (upper mark) (upper digits)

/-- The whole number behind a value: a double loses its fraction where the conversion is decimal. -/
def wholeOf (conversion : Char) (v : Value) : Except Failure Int :=
  match v.asNumber? with
  | some (.whole n) => .ok n
  | some x =>
    if conversion = 'o' || conversion = 'x' || conversion = 'X' then .error .mismatch
    else match x.scaled with
      | .finite negative m e =>
        let size : Nat := if 0 ≤ e then m * Nat.pow 2 e.toNat else m / Nat.pow 2 (-e).toNat
        .ok (if negative then -(size : Int) else size)
      | .infinite _ => .error .overflow
      | .undefined => .error .malformed
  | none => .error .mismatch

/-- Take trailing zeros behind the point off, and the point when nothing is left behind it. -/
def dropZeros (s : String) : String :=
  if s.contains '.' then
    let cs := s.toList.reverse.dropWhile (· == '0')
    String.ofList (match cs with
      | '.' :: rest => rest
      | cs => cs).reverse
  else s

/-- A positive double `m · 2 ^ e`, or zero, with `p` digits as the conversion counts them. -/
def finiteText (conversion : Char) (alternate : Bool) (p m : Nat) (e : Int) : String :=
  let (up, down) := Decimal.power 2 e
  let (num, den) := (m * up, down)
  let fixed (places : Nat) : String :=
    Decimal.fixedText (Decimal.nearest (num * Nat.pow 10 places) den) places alternate
  let scientific (places : Nat) : Decimal :=
    if m = 0 then ⟨0, 0⟩ else Decimal.rounded num den places
  let scientificText (places : Nat) : String :=
    if m = 0 then Decimal.fixedText 0 places alternate ++ Decimal.exponentText 'e' 0
    else (scientific places).scientificText 'e' alternate
  if conversion = 'f' then fixed p
  else if conversion = 'e' then scientificText p
  else
    let p := if p = 0 then 1 else p
    let lead := if m = 0 then 0 else (scientific (p - 1)).lead
    if -4 ≤ lead && lead < p then
      let s := fixed ((p : Int) - 1 - lead).toNat
      if alternate then s else dropZeros s
    else
      let s := scientificText (p - 1)
      if alternate then s
      else
        let front := (s.toList.takeWhile (· ≠ 'e'))
        dropZeros (String.ofList front) ++ String.ofList (s.toList.dropWhile (· ≠ 'e'))

/-- A double with the digits its precision asks for, six unless it says otherwise. -/
def fillReal (layout : Layout) (conversion : Char) (x : Float) : List Char :=
  let small := conversion.toLower
  let upper := fun (s : String) =>
    if conversion = small then s.toList else s.toList.map Char.toUpper
  match Scaled.ofFloat x with
  | .undefined => pad layout layout.zero (signOf layout false) [] (upper "nan")
  | .infinite negative => pad layout layout.zero (signOf layout negative) [] (upper "inf")
  | .finite negative m e =>
    let body := finiteText small layout.alternate (layout.precision.getD 6) m e
    pad layout layout.zero (signOf layout negative) [] (upper body)

def realOf (v : Value) : Except Failure Float :=
  match v.asNumber? with
  | some n => match n.toFloat? with
    | some x => .ok x
    | none => .error .overflow
  | none => .error .mismatch

def charOf (v : Value) : Except Failure Char :=
  match v with
  | .text s => match s.toList with
    | [c] => .ok c
    | _ => .error .mismatch
  | _ => match v.asNumber? with
    | some (.whole n) =>
      if 0 ≤ n && n < 0x110000 then .ok (Char.ofNat n.toNat) else .error .overflow
    | _ => .error .mismatch

def convert (layout : Layout) (conversion : Char) (v : Value) : Except Failure (List Char) := do
  match conversion with
  | 's' => return fillText layout v.display
  | 'r' => return fillText layout v.quoted
  | 'a' => return fillText layout (toAscii v.quoted)
  | 'c' => return pad layout false [] [] [← charOf v]
  | 'd' | 'i' | 'u' | 'o' | 'x' | 'X' => return fillWhole layout conversion (← wholeOf conversion v)
  | 'e' | 'E' | 'f' | 'F' | 'g' | 'G' => return fillReal layout conversion (← realOf v)
  | _ => throw .malformed

/-- Fill one directive; `cs` follows its percent sign. -/
def directive (details : Fields Value) (hand : AtHand) (cs : List Char) :
    Except Failure (List Char × AtHand × List Char) := do
  match cs with
  | '%' :: rest => return (['%'], hand, rest)
  | _ =>
    let (hand, cs) ← match cs with
      | '(' :: rest => match splitName 0 [] rest with
        | none => throw Failure.malformed
        | some (name, rest) => match details.get? name with
          | none => throw Failure.missing
          | some v => pure (AtHand.value v, rest)
      | _ => pure (hand, cs)
    let (layout, cs) := takeFlags {} cs
    let (layout, hand, cs) ← takeWidth layout hand cs
    let (layout, hand, cs) ← takePrecision layout hand cs
    match dropSize cs with
    | [] => throw .malformed
    | conversion :: rest =>
      let v ← hand.take
      if layout.isTooWide conversion then throw .overflow
      return (← convert layout conversion v, .used, rest)

/-- Fill a template: literal text stands, each directive takes at least one character. -/
def fillFrom (details : Fields Value) (hand : AtHand) :
    (fuel : Nat) → List Char → Except Failure (List Char)
  | 0, cs => .ok cs
  | _, [] => .ok []
  | fuel + 1, '%' :: rest => do
    let (written, hand, rest) ← directive details hand rest
    return written ++ (← fillFrom details hand fuel rest)
  | fuel + 1, c :: rest => do return c :: (← fillFrom details hand fuel rest)

def fill (template : String) (details : Fields Value) : Except Failure String :=
  let cs := template.toList
  (fillFrom details (.value (.pairs details)) cs.length cs).map String.ofList

end CloudSession.Text.Template
