import PathRouter.Text.Utf8

/-!
Percent-encoded values. A value stands in a path with `+` for a space and `%` and two hexadecimal
digits for a byte; anything else stands for itself, and so does a `%` that no two digits follow.
-/

namespace PathRouter.Text.Percent

/-- The value of the ASCII hexadecimal digit `b`. -/
def hexValue? (b : UInt8) : Option UInt8 :=
  if 0x30 ≤ b ∧ b ≤ 0x39 then some (b - 0x30)
  else if 0x41 ≤ b ∧ b ≤ 0x46 then some (b - 0x37)
  else if 0x61 ≤ b ∧ b ≤ 0x66 then some (b - 0x57)
  else none

/-- The byte that the two digits name. -/
def escaped? (high low : UInt8) : Option UInt8 :=
  match hexValue? high, hexValue? low with
  | some h, some l => some (h * 16 + l)
  | _, _ => none

/-- Replaces each escape by its byte. -/
def unescape : List UInt8 → List UInt8
  | 0x25 :: high :: low :: rest =>
    match escaped? high low with
    | some b => b :: unescape rest
    | none => 0x25 :: unescape (high :: low :: rest)
  | b :: rest => b :: unescape rest
  | [] => []

/-- Writes each `+` as a space. -/
def spaced (raw : List Char) : List Char := raw.map fun c => if c = '+' then ' ' else c

/-- The value of a text in full: spaces first, then escapes, then the bytes read as UTF-8. -/
def decodeAll (raw : List Char) : List Char :=
  Utf8.decode (unescape (Utf8.encode (spaced raw)))

/-- Whether a character of the text may stand for another. -/
def isCoded (raw : List Char) : Bool := raw.any fun c => c = '%' || c = '+'

/-- The value that the text `raw` stands for. A text without `%` and `+` is its own value. -/
def decode (raw : String) : String :=
  if isCoded raw.toList then String.ofList (decodeAll raw.toList) else raw

end PathRouter.Text.Percent
