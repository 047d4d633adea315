/-!
# Paths

Paths as they are written: names between slashes. No file is looked at here.

- `join` appends a path to a directory, unless it is absolute and so stands alone.
- `fileName?` is the last name, when the path ends in one.
- `relativeTo?` is the rest of a path that starts with another.
- `parent?` is the path without its last part.
-/

namespace AgentTrial.Path

/-- Whether a path starts at the root. -/
def isAbsolute (path : String) : Bool :=
  path.toList.head? == some '/'

/-- A text without the slashes at its end. -/
def trimSlashes (s : String) : String :=
  String.ofList ((s.toList.reverse.dropWhile (· == '/')).reverse)

/-- The path `tail` seen from the directory `base`. -/
def join (base tail : String) : String :=
  if isAbsolute tail || base.isEmpty then tail
  else if base.toList.getLast? == some '/' then base ++ tail
  else base ++ "/" ++ tail

/-- The names between slashes, the empty ones included. -/
def parts (path : String) : List String :=
  (path.toList.splitOn '/').map String.ofList

/-- The names that move away from where they stand: neither empty nor `.`. -/
def steps (path : String) : List String :=
  (parts path).filter fun name => name != "" && name != "."

/-- The last name of a path; none for the root, the empty path, `.` and a path that ends in `..`. -/
def fileName? (path : String) : Option String :=
  (steps path).getLast?.filter (· != "..")

/-- The components of a path: the root or the `.` that it starts with, if it does, and its steps. -/
def components (path : String) : List String :=
  (if isAbsolute path then ["/"]
    else if (parts path).head? = some "." then ["."] else []) ++ steps path

/-- The components of a path after those of `base`, if it starts with them. -/
def relativeTo? (base path : String) : Option (List String) :=
  if components base <+: components path then
    some ((components path).drop (components base).length)
  else none

/-- A reversed path without the slashes and `.` names at its end. The first character of a path is
never dropped. -/
def dropTrailing : List Char → List Char
  | '/' :: '/' :: rest => dropTrailing ('/' :: rest)
  | ['/'] => ['/']
  | '/' :: rest => dropTrailing rest
  | '.' :: '/' :: rest => dropTrailing ('/' :: rest)
  | cs => cs

/-- The path without its last part; none for the root and the empty path. -/
def parent? (path : String) : Option String :=
  let trimmed := dropTrailing path.toList.reverse
  if trimmed = [] ∨ trimmed = ['/'] then none
  else some (String.ofList (dropTrailing (trimmed.dropWhile (· != '/'))).reverse)

end AgentTrial.Path
