import PathRouter.Regex.Expr

/-!
Searching a text for the leftmost match, of several at one place the preferred one. The search
keeps a list of threads, most preferred first, and moves all of them over one character at a time.
A thread is what remains to be matched, a list of goals; of two threads that agree in their goals
the second can never win and is dropped, so that the list stays short however many ways there are
to match.
-/

namespace PathRouter.Regex

/-- One thing that remains to be matched. -/
inductive Goal where
  /-- An expression. -/
  | expr (e : Expr)
  /-- The end of the group `name`. -/
  | close (name : String)
  /-- The end of one round of an unbounded repetition, after which another may follow. -/
  | round (e : Expr) (greedy : Bool)
deriving DecidableEq, Repr

/-- The place where a named group began or ended. -/
inductive Mark where
  | opened (name : String) (pos : Nat)
  | closed (name : String) (pos : Nat)
deriving DecidableEq, Repr

/-- A thread that waits for the next character. -/
structure Thread where
  /-- The characters that let it go on. -/
  set : CharSet
  /-- What remains after that. -/
  goals : List Goal
  /-- The groups that it passed, latest first. -/
  marks : List Mark
deriving DecidableEq, Repr

/-- What has been found at one position. -/
structure Frontier where
  /-- The goals with which the position has been entered. -/
  seen : List (List Goal)
  /-- The threads that wait there, latest first. -/
  threads : List Thread
  /-- The marks of the thread that has nothing left to match; those after it do not count. -/
  done : Option (List Mark)

/-- Goes on with a thread that has the given marks. -/
abbrev Advance := List Mark → Frontier → Frontier

namespace Frontier

/-- Nothing found yet. -/
def empty : Frontier := ⟨[], [], none⟩

/-- Goes on with `next` for the goals `goals`, unless the position has been entered with them before
or a more preferred thread is done. -/
def enter (goals : List Goal) (next : Advance) : Advance := fun marks f =>
  if f.done.isSome ∨ goals ∈ f.seen then f
  else next marks { f with seen := goals :: f.seen }

/-- Goes nowhere. -/
def stay : Advance := fun _ f => f

/-- Lets a thread wait for a character of `set`, unless a more preferred thread is done. -/
def wait (set : CharSet) (goals : List Goal) : Advance := fun marks f =>
  if f.done.isSome then f else { f with threads := ⟨set, goals, marks⟩ :: f.threads }

/-- Ends a thread that has nothing left to match. -/
def finish : Advance := fun marks f =>
  if f.done.isSome then f else { f with done := some marks }

end Frontier

/-- Tries `more` before `less` if `greedy`, and after it if not. -/
def choose (greedy : Bool) (more less : Advance) : Advance := fun marks f =>
  if greedy then less marks (more marks f) else more marks (less marks f)

section Repetition

/-! ### Repetition

`body goals next` matches the repeated expression `e` once; `goals` is what remains after it, and
`next` goes on with that where `e` has matched nothing. A round that takes up no character is the
last: the thread goes on behind the repetition. -/

variable (e : Expr) (greedy : Bool) (body : List Goal → Advance → Advance)

/-- One round, and any number more. -/
def rounds (goals : List Goal) (next : Advance) : Advance :=
  body (.round e greedy :: goals) (Frontier.enter (.round e greedy :: goals) next)

/-- Any number of rounds. If a round cannot but take up a character, what remains after it is the
whole repetition again. -/
def anyRounds (goals : List Goal) (next : Advance) : Advance :=
  let more :=
    if e.isNullable then rounds e greedy body goals next
    else body (.expr (.rep 0 none greedy e) :: goals) Frontier.stay
  choose greedy more next

/-- Up to `n` rounds. -/
def upTo : (n : Nat) → List Goal → Advance → Advance
  | 0, _, next => next
  | n + 1, goals, next =>
    let goals' := .expr (.rep 0 (some n) greedy e) :: goals
    choose greedy
      (body goals' (Frontier.enter goals' fun marks f => upTo n goals next marks f)) next

/-- `min` rounds, and then up to `extra` more. -/
def repeatRounds : (min : Nat) → (extra : Option Nat) → List Goal → Advance → Advance
  | 0, none, goals, next => anyRounds e greedy body goals next
  | 0, some n, goals, next => upTo e greedy body n goals next
  | 1, none, goals, next => rounds e greedy body goals next
  | min + 1, extra, goals, next =>
    let goals' := .expr (.rep min extra greedy e) :: goals
    body goals' (Frontier.enter goals' fun marks f => repeatRounds min extra goals next marks f)

end Repetition

/-! ### One position -/

/-- Matches `e` at the position `pos`, as far as that takes up no character. `goals` is what remains
after `e`, and `next` goes on with it. -/
def Expr.advance (around : Around) (pos : Nat) (e : Expr) (goals : List Goal) (next : Advance) :
    Advance :=
  Frontier.enter (.expr e :: goals) <|
    match e with
    | empty => next
    | chars s => Frontier.wait s goals
    | look l => fun marks f => if l.holds around then next marks f else f
    | cat a b =>
      a.advance around pos (.expr b :: goals) fun marks f =>
        b.advance around pos goals next marks f
    | alt a b => fun marks f =>
      b.advance around pos goals next marks (a.advance around pos goals next marks f)
    | rep min extra greedy e =>
      repeatRounds e greedy (fun goals next => e.advance around pos goals next) min extra goals next
    | group none e => e.advance around pos goals next
    | group (some name) e => fun marks f =>
      e.advance around pos (.close name :: goals)
        (fun marks f => next (.closed name pos :: marks) f) (.opened name pos :: marks) f

/-- Goes on with what remains to be matched at the position `pos`. -/
def resume (around : Around) (pos : Nat) : List Goal → Advance
  | [] => Frontier.finish
  | .expr e :: goals => e.advance around pos goals (resume around pos goals)
  | .close name :: goals => fun marks f =>
    resume around pos goals (.closed name pos :: marks) f
  | .round e greedy :: goals =>
    Frontier.enter (.round e greedy :: goals)
      (choose greedy (rounds e greedy (e.advance around pos) goals (resume around pos goals))
        (resume around pos goals))

/-! ### The whole text -/

/-- Moves the threads over the character `c` to the position `pos`. -/
def move (c : Char) (around : Around) (pos : Nat) (threads : List Thread) : Frontier :=
  threads.foldl (fun f t => if t.set.contains c then resume around pos t.goals t.marks f else f)
    .empty

/-- A match of the whole expression. -/
structure Match where
  /-- How many characters stand before it. -/
  start : Nat
  /-- How many characters stand before its end. -/
  stop : Nat
  /-- The groups that were passed, latest first. -/
  marks : List Mark
deriving DecidableEq, Repr

/-- Runs a match that began at `start` on over the rest of the text, of which `pos` characters are
done: `found` holds the threads that wait and `best` the best match so far. -/
def run (start : Nat) (best : Option Match) (threads : List Thread) (pos : Nat) :
    List Char → Option Match
  | [] => best
  | c :: rest =>
    if threads.isEmpty then best
    else
      let f := move c ⟨some c, rest.head?⟩ (pos + 1) threads
      let best := (f.done.map fun marks => ⟨start, pos + 1, marks⟩) <|> best
      run start best f.threads.reverse (pos + 1) rest

/-- The preferred match that begins at the position `pos`, between the character `before` and the
rest of the text. -/
def Expr.matchAt (e : Expr) (before : Option Char) (pos : Nat) (rest : List Char) :
    Option Match :=
  let f := e.advance ⟨before, rest.head?⟩ pos [] Frontier.finish [] .empty
  run pos (f.done.map fun marks => ⟨pos, pos, marks⟩) f.threads.reverse pos rest

/-- The leftmost match from the position `pos` on. -/
def Expr.searchFrom (e : Expr) (before : Option Char) (pos : Nat) (rest : List Char) :
    Option Match :=
  e.matchAt before pos rest <|>
    match rest with
    | [] => none
    | c :: rest => e.searchFrom (some c) (pos + 1) rest

/-- The leftmost match in a text. -/
def Expr.search (e : Expr) (text : List Char) : Option Match := e.searchFrom none 0 text

end PathRouter.Regex
