import PathRouter.Regex.Error
import PathRouter.Unicode.Space

/-!
Reading an expression from left to right. A reader takes characters from the front of a text and
never gives any back, so what it leaves is an end of what it was given; that is part of its result,
and the one loop that all readers share ends because of it.
-/

namespace PathRouter.Regex

/-- What a reader found at the front of the text `cs`, and what it left. -/
structure Reading (α : Type) (cs : List Char) where
  value : α
  rest : List Char
  suffix : rest <:+ cs

/-- Reads a value from the front of a text, or finds a fault there. -/
def Reader (α : Type) : Type := (cs : List Char) → Except SyntaxError (Reading α cs)

namespace Reader

/-- Reads nothing. -/
def give (a : α) : Reader α := fun cs => .ok ⟨a, cs, List.suffix_rfl⟩

/-- Finds a fault, whatever follows. -/
def fault (e : SyntaxError) : Reader α := fun _ => .error e

/-- Reads with `r`, then with what `f` makes of its value. -/
def andThen (r : Reader α) (f : α → Reader β) : Reader β := fun cs =>
  match r cs with
  | .error e => .error e
  | .ok a =>
    match f a.value a.rest with
    | .error e => .error e
    | .ok b => .ok ⟨b.value, b.rest, b.suffix.trans a.suffix⟩

instance : Monad Reader where
  pure := give
  bind := andThen

instance : MonadExcept SyntaxError Reader where
  throw := fault
  tryCatch r handle := fun cs =>
    match r cs with
    | .error e => handle e cs
    | .ok a => .ok a

/-- Takes what `o` holds, or finds the fault `e`. -/
def ofOption (e : SyntaxError) : Option α → Reader α
  | some a => give a
  | none => fault e

/-- Takes one character; `e` is the fault if there is none. -/
def next (e : SyntaxError) : Reader Char
  | [] => .error e
  | c :: rest => .ok ⟨c, rest, List.suffix_cons c rest⟩

/-- Takes the next character if it is `c`, and tells whether it was. -/
def accept (c : Char) : Reader Bool
  | [] => .ok ⟨false, [], List.suffix_rfl⟩
  | d :: rest =>
    if d = c then .ok ⟨true, rest, List.suffix_cons d rest⟩
    else .ok ⟨false, d :: rest, List.suffix_rfl⟩

/-- Takes the text `w` if it comes next, and tells whether it did. -/
def acceptText (w : List Char) : Reader Bool := fun cs =>
  if w.isPrefixOf cs then .ok ⟨true, cs.drop w.length, List.drop_suffix _ cs⟩
  else .ok ⟨false, cs, List.suffix_rfl⟩

/-- Takes the longest run of characters that satisfy `p`. -/
def takeWhile (p : Char → Bool) : Reader (List Char) := fun cs =>
  .ok ⟨cs.takeWhile p, cs.dropWhile p, List.dropWhile_suffix p⟩

/-- Takes the first of the alternatives whose text comes next. -/
def oneOf : List (List Char × α) → Reader (Option α)
  | [] => give none
  | (w, a) :: more => do if ← acceptText w then return some a else oneOf more

/-- Repeats `step` with each next character until it gives a result; `atEnd` has the last word
where the text ends first. -/
def loop (step : σ → Char → Reader (σ ⊕ α)) (atEnd : σ → Except SyntaxError α) (state : σ) :
    Reader α
  | [] => (atEnd state).map fun a => ⟨a, [], List.suffix_rfl⟩
  | c :: cs =>
    match step state c cs with
    | .error e => .error e
    | .ok ⟨.inr a, rest, h⟩ => .ok ⟨a, rest, h.trans (List.suffix_cons c cs)⟩
    | .ok ⟨.inl state, rest, h⟩ =>
      have : rest.length < cs.length + 1 := Nat.lt_succ_of_le h.length_le
      match loop step atEnd state rest with
      | .error e => .error e
      | .ok a => .ok ⟨a.value, a.rest, a.suffix.trans (h.trans (List.suffix_cons c cs))⟩
termination_by cs => cs.length

end Reader

/-- `cs` less the white space and the comments at its front; `inComment` tells that a comment is
open there. A comment runs from `#` to the end of its line. -/
def dropBlank (inComment : Bool) : List Char → List Char
  | [] => []
  | c :: rest =>
    if inComment then dropBlank (c ≠ '\n') rest
    else if Unicode.isSpace c then dropBlank false rest
    else if c = '#' then dropBlank true rest
    else c :: rest

theorem dropBlank_suffix (inComment : Bool) (cs : List Char) : dropBlank inComment cs <:+ cs := by
  fun_induction dropBlank inComment cs with grind [List.suffix_cons, List.IsSuffix.trans]

/-- `cs` less the white space and comments at its front where the flag for them, `verbose`, is set;
elsewhere they count as themselves. -/
def skipBlank (verbose : Bool) (cs : List Char) : List Char :=
  if verbose then dropBlank false cs else cs

theorem skipBlank_suffix (verbose : Bool) (cs : List Char) : skipBlank verbose cs <:+ cs := by
  unfold skipBlank
  split
  · exact dropBlank_suffix false cs
  · exact List.suffix_rfl

namespace Reader

/-- Takes white space and comments where they count for nothing. -/
def blank (verbose : Bool) : Reader Unit := fun cs =>
  .ok ⟨(), skipBlank verbose cs, skipBlank_suffix verbose cs⟩

end Reader

end PathRouter.Regex
