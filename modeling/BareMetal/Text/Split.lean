/-!
# Cutting texts

Texts as lists of characters, cut at a separator, at line ends, or after a number of UTF-8 bytes.
-/

namespace BareMetal.Text

/-- The pieces between the separators; there is one more than there are separators. -/
def splitOn (separator : Char) (cs : List Char) : List (List Char) :=
  cs.foldr (fun c pieces =>
    if c = separator then [] :: pieces
    else match pieces with
      | [] => [[c]]
      | piece :: rest => (c :: piece) :: rest) [[]]

/-- What stands before and after the first separator, if there is one. -/
def splitOnce (separator : Char) (cs : List Char) : Option (List Char × List Char) :=
  match cs.span (· ≠ separator) with
  | (_, []) => none
  | (before, _ :: after) => some (before, after)

/-- A line without the carriage return before its line feed. -/
def dropReturn (line : List Char) : List Char :=
  if line.getLast? = some '\r' then line.dropLast else line

/-- The lines of a text.  A line ends with a line feed, or a carriage return and a line feed; an
empty last line is none, and a carriage return at the very end belongs to its line. -/
def lines (cs : List Char) : List (List Char) :=
  let pieces := splitOn '\n' cs
  pieces.dropLast.map dropReturn ++ pieces.getLast?.toList.filter (· ≠ [])

/-- `texts` with `separator` between each two. -/
def joinWith (separator : String) (texts : List String) : String :=
  separator.intercalate texts

/-- The characters that make up the first `n` bytes, and what follows them.  There are none when
the text is shorter or a character crosses the cut. -/
def takeBytes? : Nat → List Char → Option (List Char × List Char)
  | 0, cs => some ([], cs)
  | _ + 1, [] => none
  | n + 1, c :: cs =>
    if c.utf8Size ≤ n + 1 then
      (takeBytes? (n + 1 - c.utf8Size) cs).map fun (taken, rest) => (c :: taken, rest)
    else none

/-- `cs` without the prefix, if it starts with it. -/
def dropPrefix? : List Char → List Char → Option (List Char)
  | [], cs => some cs
  | _ :: _, [] => none
  | p :: ps, c :: cs => if p = c then dropPrefix? ps cs else none

/-- `cs` without the suffix, if it ends with it. -/
def dropSuffix? (suffix cs : List Char) : Option (List Char) :=
  (dropPrefix? suffix.reverse cs.reverse).map List.reverse

/-- `cs` ends with `suffix`. -/
def endsWith (suffix cs : List Char) : Bool := (dropSuffix? suffix cs).isSome

/-- Every occurrence of `old` becomes `new`. -/
def replaceChar (old : Char) (new : String) (cs : List Char) : List Char :=
  cs.flatMap fun c => if c = old then new.toList else [c]

end BareMetal.Text
