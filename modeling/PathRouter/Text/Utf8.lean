/-!
UTF-8 as a machine that takes one byte at a time. The machine decodes any bytes: where they stop
being UTF-8 it writes the replacement character, one for each longest stretch that could still have
become a character. It is a transducer, so the text of two byte strings in a row is the text of the
first, run on from the state in which it left the machine.
-/

namespace PathRouter.Text.Utf8

/-- Stands for bytes that are no UTF-8. -/
def replacement : Char := '\ufffd'

/-- A character whose first bytes have been read. -/
structure Pending where
  /-- The bits read so far. -/
  value : Nat
  /-- How many bytes are still owed, less one. -/
  more : Nat
  /-- The least byte that may come next. -/
  low : Nat
  /-- The greatest byte that may come next. -/
  high : Nat
deriving DecidableEq, Repr

/-- What a byte means where a character may start. -/
inductive Lead where
  /-- A character of one byte. -/
  | complete (c : Char)
  /-- The first of several bytes. -/
  | start (p : Pending)
  /-- No character starts so. -/
  | invalid
deriving DecidableEq, Repr

/-- Classifies the byte `b` at the start of a character. The bounds on the byte after it leave out
overlong forms, surrogates and all above U+10FFFF. -/
def lead (b : Nat) : Lead :=
  if b < 0x80 then .complete (Char.ofNat b)
  else if b < 0xC2 then .invalid
  else if b < 0xE0 then .start ⟨b - 0xC0, 0, 0x80, 0xBF⟩
  else if b < 0xF0 then
    .start ⟨b - 0xE0, 1, if b = 0xE0 then 0xA0 else 0x80, if b = 0xED then 0x9F else 0xBF⟩
  else if b < 0xF5 then
    .start ⟨b - 0xF0, 2, if b = 0xF0 then 0x90 else 0x80, if b = 0xF4 then 0x8F else 0xBF⟩
  else .invalid

/-- Takes the byte `b` between characters: what is written and the new state. -/
def begin (b : Nat) : List Char × Option Pending :=
  match lead b with
  | .complete c => ([c], none)
  | .start p => ([], some p)
  | .invalid => ([replacement], none)

/-- Takes the byte `b` in any state. A byte that cannot continue the pending character ends it with
a replacement and is then read as the start of another. -/
def step (state : Option Pending) (b : Nat) : List Char × Option Pending :=
  match state with
  | none => begin b
  | some p =>
    if p.low ≤ b ∧ b ≤ p.high then
      let value := p.value * 64 + (b - 0x80)
      match p.more with
      | 0 => ([Char.ofNat value], none)
      | more + 1 => ([], some ⟨value, more, 0x80, 0xBF⟩)
    else
      let (written, next) := begin b
      (replacement :: written, next)

/-- What is written when the bytes end. -/
def flush : Option Pending → List Char
  | none => []
  | some _ => [replacement]

/-- The text of the bytes, read from `state` on. -/
def decodeFrom (state : Option Pending) : List UInt8 → List Char
  | [] => flush state
  | b :: rest =>
    let (written, next) := step state b.toNat
    written ++ decodeFrom next rest

/-- The text of the bytes, with a replacement wherever they are no UTF-8. -/
def decode (bytes : List UInt8) : List Char := decodeFrom none bytes

/-- The bytes of a text. -/
def encode (text : List Char) : List UInt8 := text.flatMap String.utf8EncodeChar

end PathRouter.Text.Utf8
