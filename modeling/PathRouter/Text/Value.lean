/-!
Typed values read from text: integers of fixed width, truth values, single characters and text.
-/

namespace PathRouter.Text

/-- An integer type: its width in bits and whether it has negative values. -/
structure IntegerType where
  signed : Bool
  bits : Nat
deriving DecidableEq, Repr

namespace IntegerType

/-- The greatest magnitude of a value with the given sign. -/
def bound (t : IntegerType) (negative : Bool) : Nat :=
  if t.signed then (if negative then Nat.pow 2 (t.bits - 1) else Nat.pow 2 (t.bits - 1) - 1)
  else if negative then 0 else Nat.pow 2 t.bits - 1

end IntegerType

/-- What a text can be read as. -/
inductive ValueType where
  | integer (t : IntegerType)
  | boolean
  | character
  | text
deriving DecidableEq, Repr

/-- A value read from a text. -/
inductive Value where
  | integer (n : Int)
  | boolean (b : Bool)
  | character (c : Char)
  | text (s : String)
deriving DecidableEq, Repr

/-- Why a text cannot be read as the type asked for. -/
inductive ValueError where
  | emptyInteger
  | invalidDigit
  | tooLarge
  | tooSmall
  | notBoolean
  | emptyCharacter
  | manyCharacters
deriving DecidableEq, Repr

namespace ValueError

/-- The wording of the error. -/
def message : ValueError → String
  | emptyInteger => "cannot parse integer from empty string"
  | invalidDigit => "invalid digit found in string"
  | tooLarge => "number too large to fit in target type"
  | tooSmall => "number too small to fit in target type"
  | notBoolean => "provided string was not `true` or `false`"
  | emptyCharacter => "cannot parse char from empty string"
  | manyCharacters => "too many characters in string"

end ValueError

namespace Value

/-- Reads decimal digits on from the magnitude `n`. The first problem from the left is reported, and
at one character a bad digit goes before a magnitude over `bound`. -/
def magnitude (bound : Nat) (overflow : ValueError) : Nat → List Char → Except ValueError Nat
  | n, [] => .ok n
  | n, c :: rest =>
    if c.isDigit then
      let n := n * 10 + (c.toNat - '0'.toNat)
      if n ≤ bound then magnitude bound overflow n rest else .error overflow
    else .error .invalidDigit

/-- Reads an unsigned run of digits, which may be empty. -/
def digits (t : IntegerType) (negative : Bool) (cs : List Char) : Except ValueError Int := do
  let n ← magnitude (t.bound negative) (if negative then .tooSmall else .tooLarge) 0 cs
  return if negative then -(n : Int) else n

/-- Reads an integer: an optional sign, `-` only where the type has negative values, and digits. -/
def readInteger (t : IntegerType) : List Char → Except ValueError Int
  | [] => .error .emptyInteger
  | ['+'] | ['-'] => .error .invalidDigit
  | '+' :: rest => digits t false rest
  | '-' :: rest => if t.signed then digits t true rest else .error .invalidDigit
  | cs => digits t false cs

/-- Reads `s` as a value of type `t`. -/
def read (t : ValueType) (s : String) : Except ValueError Value :=
  match t with
  | .integer t => .integer <$> readInteger t s.toList
  | .boolean =>
    if s = "true" then .ok (.boolean true)
    else if s = "false" then .ok (.boolean false)
    else .error .notBoolean
  | .character =>
    match s.toList with
    | [] => .error .emptyCharacter
    | [c] => .ok (.character c)
    | _ => .error .manyCharacters
  | .text => .ok (.text s)

/-- The decimal digits of `n`, with a `-` in front of a negative value. -/
def showInteger : Int → String
  | .ofNat n => String.ofList (Nat.toDigits 10 n)
  | .negSucc n => String.ofList ('-' :: Nat.toDigits 10 (n + 1))

/-- The value as text. -/
def render : Value → String
  | integer n => showInteger n
  | boolean b => if b then "true" else "false"
  | character c => c.toString
  | text s => s

end Value

end PathRouter.Text
