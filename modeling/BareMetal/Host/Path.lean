import BareMetal.Text.Split

/-!
# Path names

Path names are texts whose parts are separated by slashes.  Empty parts name nothing, and neither
do dots, though a dot has to stand in a directory.
-/

namespace BareMetal.Host.Path

/-- The parts of a path that are not empty. -/
def steps (path : String) : List String :=
  ((Text.splitOn '/' path.toList).map String.ofList).filter (· ≠ "")

/-- The parts of a path that name something. -/
def parts (path : String) : List String := (steps path).filter (· ≠ ".")

/-- The last part of a path, if it is a name. -/
def fileName? (path : String) : Option String :=
  (parts path).getLast?.filter (· ≠ "..")

/-- A file name without its extension.  A dot at the start of a name begins no extension. -/
def stem (name : String) : String :=
  let extension := name.toList.reverse.takeWhile (· ≠ '.')
  let before := (name.toList.reverse.drop (extension.length + 1)).reverse
  if before = [] then name else String.ofList before

/-- `path` seen from the directory `base`. -/
def join (base path : String) : String :=
  if path.startsWith "/" ∨ base = "" then path
  else if base.endsWith "/" then base ++ path
  else base ++ "/" ++ path

end BareMetal.Host.Path
