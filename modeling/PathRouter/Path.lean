/-!
Request paths. A router sees a request target without its query, below the directory it is mounted
in, and with a leading slash.
-/

namespace PathRouter.Path

/-- The part of a request target before its query. -/
def dropQuery (target : List Char) : List Char := target.takeWhile (· ≠ '?')

/-- `path` less a leading `mount`; unchanged where it does not start so. -/
def unmount (mount path : List Char) : List Char :=
  if mount.isPrefixOf path then path.drop mount.length else path

/-- Puts a slash in front of a path that has none. -/
def ensureSlash : List Char → List Char
  | '/' :: rest => '/' :: rest
  | path => '/' :: path

/-- The path that routes are matched against, for the request target `target` and a router mounted
at `subDir`. -/
def normalize (target subDir : String) : String :=
  String.ofList (ensureSlash (unmount subDir.toList (dropQuery target.toList)))

end PathRouter.Path
