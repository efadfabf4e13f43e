/-!
Request targets as they stand in a request line: a path with or without a query, an asterisk, an
authority by itself, or a scheme with all of these. A fragment is dropped.
-/

namespace PathRouter

/-- A request target. -/
structure Uri where
  scheme : Option String
  authority : String
  /-- The text from the path on, up to any query. -/
  rawPath : String
  query : Option String
deriving DecidableEq, Repr

namespace Uri

/-- The most bytes that a target may have. -/
def maxLength : Nat := 65534

/-- The most characters that a scheme may have. -/
def maxSchemeLength : Nat := 64

/-- The most colons that may follow each other in an authority: those of an address and its port. -/
def maxColons : Nat := 8

/-- Whether a scheme may hold `c`. -/
def isSchemeChar (c : Char) : Bool := c.isAlphanum || ['+', '-', '.', '~'].contains c

/-- Whether an authority may hold `c`, the percent sign apart. -/
def isAuthorityChar (c : Char) : Bool :=
  c.isAlphanum || "!$&'()*+,-.:;=@[]_~".toList.contains c

/-- Whether a path may hold `c`. Braces and double quotes should be encoded, but are let through
since many senders leave them as they are. -/
def isPathChar (c : Char) : Bool :=
  '!' ≤ c && c ≤ '~' && !"#<>?\x60".toList.contains c

/-- Whether a query may hold `c`. -/
def isQueryChar (c : Char) : Bool := '!' ≤ c && c ≤ '~' && !"\"#<>".toList.contains c

/-- What has been read of an authority. -/
structure AuthorityState where
  /-- The colons since the last `@` or `]`. -/
  colons : Nat
  opened : Bool
  closed : Bool
  /-- Whether there is a percent sign since the last `@` or `]`. -/
  percent : Bool
  /-- Whether the last character was an `@`. -/
  atSign : Bool

namespace AuthorityState

/-- Takes in one character, if it may stand there. -/
def step (s : AuthorityState) (c : Char) : Option AuthorityState :=
  let next := { s with atSign := c = '@' }
  match c with
  | ':' => if s.colons < maxColons then some { next with colons := s.colons + 1 } else none
  | '[' => if s.percent || s.opened then none else some { next with opened := true }
  | ']' =>
    if !s.opened || s.closed then none
    else some { next with closed := true, colons := 0, percent := false }
  | '@' => some { next with colons := 0, percent := false }
  | '%' => some { next with percent := true }
  | c => if isAuthorityChar c then some next else none

/-- Whether an authority may end here. -/
def isFinal (s : AuthorityState) : Bool :=
  s.opened == s.closed && s.colons ≤ 1 && !s.atSign && !s.percent

end AuthorityState

/-- Whether the text is an authority: a host, with a user before it and a port behind it if need
be. An empty text is one, too. -/
def isAuthority (cs : List Char) : Bool :=
  (cs.foldlM AuthorityState.step ⟨0, false, false, false, false⟩).any (·.isFinal)

/-- Whether an authority ends before `c`. -/
def endsAuthority (c : Char) : Bool := c = '/' || c = '?' || c = '#'

/-- Reads a path with the query after it. -/
def splitQuery? (cs : List Char) : Option (List Char × Option (List Char)) :=
  let path := cs.takeWhile fun c => c ≠ '?' && c ≠ '#'
  if !path.all isPathChar then none
  else
    match cs.drop path.length with
    | '?' :: rest =>
      let query := rest.takeWhile (· ≠ '#')
      if query.all isQueryChar then some (path, some query) else none
    | _ => some (path, none)

/-- What a scheme in front of a text comes to. -/
inductive SchemeRead where
  | absent
  | tooLong
  | found (scheme rest : List Char)

/-- Splits off the scheme at the front of a target, with the `://` behind it. The two common schemes
are known in either case; another must have been written out, and needs more than three characters
with what follows. -/
def readScheme (cs : List Char) : SchemeRead :=
  if (cs.take 7).map Char.toLower = "http://".toList then .found "http".toList (cs.drop 7)
  else if (cs.take 8).map Char.toLower = "https://".toList then .found "https".toList (cs.drop 8)
  else
    let scheme := cs.takeWhile isSchemeChar
    match cs.drop scheme.length with
    | ':' :: '/' :: '/' :: rest =>
      if cs.length ≤ 3 then .absent
      else if maxSchemeLength < scheme.length then .tooLong
      else .found scheme rest
    | _ => .absent

/-- Puts a target together. -/
def make (scheme : Option (List Char)) (authority : List Char)
    (rest : List Char × Option (List Char)) : Uri :=
  ⟨scheme.map String.ofList, String.ofList authority, String.ofList rest.1,
    rest.2.map String.ofList⟩

/-- Reads a target. -/
def parse? (s : String) : Option Uri :=
  let cs := s.toList
  if maxLength < s.utf8ByteSize then none
  else
    match cs with
    | [] => none
    | ['*'] => some (make none [] (['*'], none))
    | '/' :: _ => (splitQuery? cs).map (make none [])
    | _ =>
      match readScheme cs with
      | .tooLong => none
      | .absent => if isAuthority cs then some (make none cs ([], none)) else none
      | .found scheme rest =>
        let authority := rest.takeWhile fun c => !endsAuthority c
        if authority.isEmpty || !isAuthority authority then none
        else (splitQuery? (rest.drop authority.length)).map (make (some scheme) authority)

/-- The path. One that is empty behind a scheme is a slash. -/
def path (u : Uri) : String :=
  if u.rawPath.isEmpty && u.scheme.isSome then "/" else u.rawPath

/-- The target as text. -/
def render (u : Uri) : String :=
  (u.scheme.map (· ++ "://")).getD "" ++ u.authority ++ u.path ++
    (u.query.map ("?" ++ ·)).getD ""

end Uri

end PathRouter
